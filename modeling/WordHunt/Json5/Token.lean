import WordHunt.Decimal.Reading
import WordHunt.Json.Reader
import WordHunt.Text.Blank
import WordHunt.Text.Identifier

/-!
The tokens of a JSON5 text, which may have comments, names without quotation marks, strings in
single quotation marks, and numbers with any sign, without digits on one side of the point, or
in hexadecimal digits.  Strings and numbers are decoded here.  An integer that does not fit 64
bits with a sign becomes a floating-point number.
-/

namespace WordHunt.Json5

open Json (Number StringUnit)
open Text

inductive Token where
  | openArray
  | closeArray
  | openObject
  | closeObject
  | comma
  | colon
  /-- A name without quotation marks; only one without escapes can be a keyword. -/
  | name (text : String) (escaped : Bool)
  | number (value : Number)
  | string (text : String)
  | space

def isLineEnd (c : Char) : Bool :=
  c = '\n' || c = '\r' || c = '\u2028' || c = '\u2029'

def isSpace (c : Char) : Bool :=
  isBlank c && c ≠ '\u0085' || c = '\uFEFF'

def isNameStart (c : Char) : Bool :=
  isLetter c || c = '$' || c = '_'

def isNamePart (c : Char) : Bool :=
  isNameStart c || isDecimalDigit c || isConnector c || isJoiner c ||
    isMark c && !isEnclosingMark c

def lineEndSize : List Char → Nat
  | '\r' :: '\n' :: _ => 2
  | c :: _ => if isLineEnd c then 1 else 0
  | [] => 0

def escape : Finder (Option StringUnit)
  | [] => none
  | 'b' :: _ => some (some (.char '\x08'), 1)
  | 'f' :: _ => some (some (.char '\x0c'), 1)
  | 'n' :: _ => some (some (.char '\n'), 1)
  | 'r' :: _ => some (some (.char '\r'), 1)
  | 't' :: _ => some (some (.char '\t'), 1)
  | 'v' :: _ => some (some (.char '\x0b'), 1)
  | '0' :: s => if s.head?.any Char.isDigit then none else some (some (.char '\x00'), 1)
  | 'x' :: s => (codeChar? 2 s).map fun c => (some (.char c), 3)
  | 'u' :: s => (Json.hexCode? (s.take 4)).map fun code => (some (.code code), 5)
  | c :: s =>
      let size := lineEndSize (c :: s)
      if size ≠ 0 then some (none, size)
      else if c.isDigit then none
      else some (some (.char c), 1)

def stringUnits? (quote : Char) (done : List StringUnit) (size : Nat) :
    (skip : Nat) → List Char → Option (List StringUnit × Nat)
  | _, [] => none
  | skip + 1, _ :: s => stringUnits? quote done size skip s
  | 0, c :: s =>
      if c = quote then some (done.reverse, size + 1)
      else if c = '\\' then
        match escape s with
        | some (unit, length) =>
            stringUnits? quote (unit.toList ++ done) (size + 1 + length) length s
        | none => none
      else if c = '\n' ∨ c = '\r' then none
      else stringUnits? quote (.char c :: done) (size + 1) 0 s

def nameChar : Finder Char
  | '\\' :: 'u' :: s => do
      let first ← Json.hexCode? (s.take 4)
      if first.isValidChar then some (Char.ofNat first, 6)
      else
        match s.drop 4 with
        | '\\' :: 'u' :: s =>
            let second ← Json.hexCode? (s.take 4)
            match (← Json.stringText? [.code first, .code second]).toList with
            | [c] => some (c, 12)
            | _ => none
        | _ => none
  | c :: _ => some (c, 1)
  | [] => none

def nameOnto (done : List Char) (size : Nat) : (skip : Nat) → List Char → List Char × Nat
  | _, [] => (done.reverse, size)
  | skip + 1, _ :: s => nameOnto done size skip s
  | 0, c :: s =>
      match nameChar (c :: s) with
      | some (unit, length) =>
          if (if done = [] then isNameStart unit else isNamePart unit) then
            nameOnto (unit :: done) (size + length) (length - 1) s
          else (done.reverse, size)
      | none => (done.reverse, size)

def name (s : List Char) : Option (Token × Nat) :=
  match nameOnto [] 0 0 s with
  | ([], _) => none
  | (chars, size) => some (.name (String.ofList chars) (chars.length ≠ size), size)

/-- An integer, or the floating-point number nearest to it. -/
def wholeNumber (negative : Bool) (magnitude : Nat) : Number :=
  let value : Int := if negative then -(magnitude : Int) else magnitude
  if fitsSigned value then .integer value
  else
    let nearest := Decimal.Scaled.nearest ⟨magnitude, 0⟩
    .real (if negative then -nearest else nearest)

def hexNumber (negative : Bool) (s : List Char) : Option (Number × Nat) := do
  let digits := s.takeWhile fun c => (hexDigit? c).isSome
  let magnitude := ofHexDigits (← digits.mapM hexDigit?)
  if digits = [] then none else some (wholeNumber negative magnitude, digits.length + 2)

def decimalSize (s : List Char) : Nat :=
  let whole := Json.wholeDigits s
  let s := s.drop whole.length
  let (point, fraction) :=
    match s with
    | '.' :: s => (1, (s.takeWhile Char.isDigit).length)
    | _ => (0, 0)
  if whole = [] ∧ fraction = 0 then 0
  else
    let exponent := (Json.exponentPart? (s.drop (point + fraction))).map Prod.snd
    whole.length + point + fraction + exponent.getD 0

def decimalNumber (negative : Bool) (s : List Char) : Option (Number × Nat) :=
  let digits := s.take (decimalSize s)
  if digits = [] then none
  else if digits.all Char.isDigit then
    some (wholeNumber negative (Nat.ofDigitChars 10 digits 0), digits.length)
  else
    (Decimal.read? digits).map fun value =>
      (.real (if negative then -value else value), digits.length)

def unsigned (negative : Bool) : Finder Number
  | '0' :: 'x' :: s => hexNumber negative s
  | '0' :: 'X' :: s => hexNumber negative s
  | s =>
      if "Infinity".toList.isPrefixOf s then
        some (.real (if negative then -Decimal.infinity else Decimal.infinity), 8)
      else if "NaN".toList.isPrefixOf s then some (.real Decimal.notANumber, 3)
      else decimalNumber negative s

def number : Finder Number
  | '-' :: s => (unsigned true s).map fun (value, size) => (value, size + 1)
  | '+' :: s => (unsigned false s).map fun (value, size) => (value, size + 1)
  | s => unsigned false s

def commentSize? : List Char → Option Nat
  | '*' :: '/' :: _ => some 2
  | _ :: s => (commentSize? s).map (· + 1)
  | [] => none

def token : Finder Token
  | [] => none
  | '[' :: _ => some (.openArray, 1)
  | ']' :: _ => some (.closeArray, 1)
  | '{' :: _ => some (.openObject, 1)
  | '}' :: _ => some (.closeObject, 1)
  | ',' :: _ => some (.comma, 1)
  | ':' :: _ => some (.colon, 1)
  | '/' :: '/' :: s => some (.space, 2 + (s.takeWhile fun c => !isLineEnd c).length)
  | '/' :: '*' :: s => (commentSize? s).map fun size => (.space, size + 2)
  | c :: s =>
      if isSpace c then some (.space, ((c :: s).takeWhile isSpace).length)
      else if c = '"' ∨ c = '\'' then do
        let (units, size) ← stringUnits? c [] 1 0 s
        let text ← Json.stringText? units
        some (.string text, size)
      else if isNameStart c ∨ c = '\\' then name (c :: s)
      else (number (c :: s)).map fun (value, size) => (.number value, size)

def tokens? (s : List Char) : Option (List Token) :=
  (scan token s).foldr
    (fun piece rest =>
      match piece with
      | .plain _ => none
      | .found .space => rest
      | .found token => rest.map (token :: ·)) (some [])

end WordHunt.Json5
