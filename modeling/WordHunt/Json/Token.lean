import WordHunt.Text.HexDigit
import WordHunt.Text.Scan

/-!
The tokens of a JSON text.  Strings and numbers are kept as they are written: whether their
escapes make sense and whether a number can be represented is asked only of the values that are
used.
-/

namespace WordHunt.Json

open Text

/-- A character of a string, or the 16-bit code that an escape gives. -/
inductive StringUnit where
  | char (c : Char)
  | code (value : Nat)
  deriving DecidableEq, Repr

structure Numeral where
  negative : Bool
  whole : List Char
  fraction : List Char
  exponent : Option (Bool × List Char)
  deriving DecidableEq, Repr

inductive Token where
  | openArray
  | closeArray
  | openObject
  | closeObject
  | comma
  | colon
  | null
  | boolean (value : Bool)
  | number (numeral : Numeral)
  | string (units : List StringUnit)
  deriving DecidableEq, Repr

def isSpace (c : Char) : Bool :=
  c = ' ' || c = '\t' || c = '\n' || c = '\r'

def hexCode? : List Char → Option Nat
  | [a, b, c, d] => do
      let a ← hexDigit? a
      let b ← hexDigit? b
      let c ← hexDigit? c
      let d ← hexDigit? d
      some (((a * 16 + b) * 16 + c) * 16 + d)
  | _ => none

def escapedChar? : Char → Option Char
  | '"' => some '"'
  | '\\' => some '\\'
  | '/' => some '/'
  | 'b' => some '\x08'
  | 'f' => some '\x0c'
  | 'n' => some '\n'
  | 'r' => some '\r'
  | 't' => some '\t'
  | _ => none

def stringUnit : Finder StringUnit
  | [] => none
  | '\\' :: s =>
      match s with
      | [] => none
      | 'u' :: s => (hexCode? (s.take 4)).map fun code => (.code code, 6)
      | c :: _ => (escapedChar? c).map fun c => (.char c, 2)
  | c :: _ => if c.toNat < 0x20 then none else some (.char c, 1)

def stringUnits? (done : List StringUnit) (size : Nat) :
    (skip : Nat) → List Char → Option (List StringUnit × Nat)
  | _, [] => none
  | skip + 1, _ :: s => stringUnits? done size skip s
  | 0, c :: s =>
      if c = '"' then some (done.reverse, size + 1)
      else
        match stringUnit (c :: s) with
        | some (unit, length) => stringUnits? (unit :: done) (size + length) (length - 1) s
        | none => none

/-- The integer part of a number: a single zero, or digits that do not begin with one. -/
def wholeDigits (s : List Char) : List Char :=
  match s with
  | '0' :: _ => ['0']
  | _ => s.takeWhile Char.isDigit

def fractionDigits : List Char → List Char
  | '.' :: s => s.takeWhile Char.isDigit
  | _ => []

def isExponentMark (c : Char) : Bool :=
  c = 'e' || c = 'E'

def exponentPart? : List Char → Option ((Bool × List Char) × Nat)
  | mark :: s =>
      if isExponentMark mark then
        let (negative, signed, s) :=
          match s with
          | '-' :: s => (true, 1, s)
          | '+' :: s => (false, 1, s)
          | s => (false, 0, s)
        match s.takeWhile Char.isDigit with
        | [] => none
        | digits => some ((negative, digits), 1 + signed + digits.length)
      else none
  | [] => none

def unsignedNumber (negative : Bool) : Finder Token := fun s =>
  match wholeDigits s with
  | [] => none
  | whole =>
      let s := s.drop whole.length
      let fraction := fractionDigits s
      let point := if fraction = [] then 0 else 1
      let s := s.drop (point + fraction.length)
      let (exponent, size) :=
        match exponentPart? s with
        | some (exponent, size) => (some exponent, size)
        | none => (none, 0)
      some (.number ⟨negative, whole, fraction, exponent⟩,
        whole.length + point + fraction.length + size)

def keyword (word : List Char) (token : Token) (s : List Char) : Option (Token × Nat) :=
  if word.isPrefixOf s then some (token, word.length) else none

def token : Finder Token
  | [] => none
  | '[' :: _ => some (.openArray, 1)
  | ']' :: _ => some (.closeArray, 1)
  | '{' :: _ => some (.openObject, 1)
  | '}' :: _ => some (.closeObject, 1)
  | ',' :: _ => some (.comma, 1)
  | ':' :: _ => some (.colon, 1)
  | '"' :: s => (stringUnits? [] 1 0 s).map fun (units, size) => (.string units, size)
  | '-' :: s => (unsignedNumber true s).map fun (token, size) => (token, size + 1)
  | 'n' :: s => keyword ['n', 'u', 'l', 'l'] .null ('n' :: s)
  | 't' :: s => keyword ['t', 'r', 'u', 'e'] (.boolean true) ('t' :: s)
  | 'f' :: s => keyword ['f', 'a', 'l', 's', 'e'] (.boolean false) ('f' :: s)
  | c :: s => if c.isDigit then unsignedNumber false (c :: s) else none

def tokens? (s : List Char) : Option (List Token) :=
  (scan token s).foldr
    (fun piece rest =>
      match piece with
      | .plain c => if isSpace c then rest else none
      | .found token => rest.map (token :: ·)) (some [])

end WordHunt.Json
