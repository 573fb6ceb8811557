import WordHunt.Decimal.Reading
import WordHunt.Json.Basic
import WordHunt.Text.HexDigit
import WordHunt.Text.Identifier
import WordHunt.Text.Scan
import WordHunt.Text.Utf8

/-!
The tokens of a RON text.  Strings, characters and numbers are decoded here.  Comments may go over
several lines and be nested.  Digits may be grouped by underscores, and the name of a type may
stand behind them: an integer has to fit its type, and `f32` rounds a number to single precision.
An integer without a type has 64 bits; a larger one in decimal digits is a floating-point number.
-/

namespace WordHunt.Ron

open Json (Number)
open Text

inductive Token where
  | openParen
  | closeParen
  | openBracket
  | closeBracket
  | openBrace
  | closeBrace
  | unit
  | comma
  | colon
  | equals
  | hash
  | bang
  | name (text : String)
  | number (value : Number)
  | string (content : String)
  | text (content : String)
  | space

def isSpace (c : Char) : Bool :=
  ('\t' ≤ c && c ≤ '\r') || c = ' ' || c = '\u0085' || c = '\u200E' || c = '\u200F' ||
    c = '\u2028' || c = '\u2029'

def isNameStart (c : Char) : Bool :=
  isIdentifierStart c || c = '_'

def isRawNamePart (c : Char) : Bool :=
  isIdentifierPart c || c = '.' || c = '+' || c = '-'

def bracedChar? (s : List Char) : Option (Char × Nat) := do
  let digits := s.takeWhile fun c => (hexDigit? c).isSome
  let c ← codeChar? digits.length digits
  if digits ≠ [] ∧ digits.length ≤ 6 ∧ s[digits.length]? = some '}' then
    some (c, digits.length + 1)
  else none

def escapedChar? : Char → Option Char
  | '\'' => some '\''
  | '"' => some '"'
  | '\\' => some '\\'
  | 'n' => some '\n'
  | 'r' => some '\r'
  | 't' => some '\t'
  | '0' => some '\x00'
  | _ => none

def escapedByte : Finder Nat
  | '\\' :: 'x' :: s => (codeChar? 2 s).map fun c => (c.toNat, 4)
  | _ => none

def escapedBytes : (count : Nat) → List Char → List Nat
  | 0, _ => []
  | count + 1, s =>
      match escapedByte s with
      | some (byte, size) => byte :: escapedBytes count (s.drop size)
      | none => []

def charOfBytes (s : List Char) : Option (Char × Nat) := do
  let (first, size) ← escapedByte s
  let (count, _) ← following? first
  let (c, length) := decodeChar first (escapedBytes count (s.drop size))
  if length = count + 1 then some (c, 4 * length) else none

def quotedChar : Finder Char
  | [] => none
  | '\\' :: 'u' :: '{' :: s => (bracedChar? s).map fun (c, size) => (c, size + 3)
  | '\\' :: 'x' :: s =>
      (codeChar? 2 s).bind fun c => if c.toNat < 0x80 then some (c, 4) else none
  | '\\' :: s => do
      let c ← escapedChar? (← s.head?)
      some (c, 2)
  | c :: _ => some (c, 1)

/-- What is passed over behind a line that is joined to the next one. -/
def isMargin (c : Char) : Bool :=
  c = ' ' || c = '\t' || c = '\n' || c = '\r'

def jointSize? : List Char → Option Nat
  | '\\' :: '\n' :: s => some (2 + (s.takeWhile isMargin).length)
  | '\\' :: '\r' :: '\n' :: s => some (3 + (s.takeWhile isMargin).length)
  | _ => none

def stringUnit : Finder (List Char) := fun s =>
  match jointSize? s with
  | some size => some ([], size)
  | none => (charOfBytes s <|> quotedChar s).map fun (c, size) => ([c], size)

def bytesOfChar (c : Char) : List UInt8 :=
  (String.singleton c).toUTF8.toList

def bytesUnit : Finder (List UInt8) := fun s =>
  match jointSize? s, escapedByte s with
  | some size, _ => some ([], size)
  | none, some (byte, size) => some ([byte.toUInt8], size)
  | none, none => (quotedChar s).map fun (c, size) => (bytesOfChar c, size)

def unitsOnto? {α : Type} (unit : Finder (List α)) (done : List α) (size : Nat) :
    (skip : Nat) → List Char → Option (List α × Nat)
  | _, [] => none
  | skip + 1, _ :: s => unitsOnto? unit done size skip s
  | 0, c :: s =>
      if c = '"' then some (done.reverse, size + 1)
      else
        match unit (c :: s) with
        | some (values, length) =>
            unitsOnto? unit (values.reverse ++ done) (size + length) (length - 1) s
        | none => none

def stringToken? (s : List Char) : Option (Token × Nat) :=
  (unitsOnto? stringUnit [] 1 0 s).map fun (chars, size) => (.string (String.ofList chars), size)

def bytesToken? (s : List Char) : Option (Token × Nat) := do
  let (bytes, size) ← unitsOnto? bytesUnit [] 2 0 s
  let content ← decodeUtf8? (ByteArray.mk bytes.toArray)
  some (.text content, size)

def rawChars? (closing : List Char) (done : List Char) : List Char → Option (List Char)
  | [] => none
  | c :: s =>
      if closing.isPrefixOf (c :: s) then some done.reverse
      else rawChars? closing (c :: done) s

/-- The content of a string without escapes, from the signs behind its letter on. -/
def rawString? (s : List Char) : Option (String × Nat) :=
  let hashes := s.takeWhile (· = '#')
  match s.drop hashes.length with
  | '"' :: s =>
      (rawChars? ('"' :: hashes) [] s).map fun chars =>
        (String.ofList chars, chars.length + 2 * hashes.length + 3)
  | _ => none

def charToken? (s : List Char) : Option (Token × Nat) := do
  let (c, size) ← quotedChar s
  if s[size]? = some '\'' then some (.text (String.singleton c), size + 2) else none

def quotedByte : Finder Nat
  | '\\' :: 'x' :: s => escapedByte ('\\' :: 'x' :: s)
  | '\\' :: 'u' :: _ => none
  | s => (quotedChar s).bind fun (c, size) => if c.toNat < 0x80 then some (c.toNat, size) else none

def byteToken? (s : List Char) : Option (Token × Nat) := do
  let (byte, size) ← quotedByte s
  if s[size]? = some '\'' then some (.number (.integer byte), size + 3) else none

/-- The size of a comment from a place inside it on, `depth` others being open around it. -/
def commentSize? : (depth : Nat) → List Char → Option Nat
  | 0, '*' :: '/' :: _ => some 2
  | depth + 1, '*' :: '/' :: s => (commentSize? depth s).map (· + 2)
  | depth, '/' :: '*' :: s => (commentSize? (depth + 1) s).map (· + 2)
  | depth, _ :: s => (commentSize? depth s).map (· + 1)
  | _, [] => none

inductive NumberType where
  | integer (least greatest : Int)
  | single
  | double
  deriving DecidableEq, Repr

namespace NumberType

def word : NumberType :=
  .integer (-0x8000000000000000) 0xFFFFFFFFFFFFFFFF

def named : List (String × NumberType) :=
  [("u8", .integer 0 0xFF), ("u16", .integer 0 0xFFFF), ("u32", .integer 0 0xFFFFFFFF),
   ("u64", .integer 0 0xFFFFFFFFFFFFFFFF), ("i8", .integer (-0x80) 0x7F),
   ("i16", .integer (-0x8000) 0x7FFF), ("i32", .integer (-0x80000000) 0x7FFFFFFF),
   ("i64", .integer (-0x8000000000000000) 0x7FFFFFFFFFFFFFFF), ("f32", .single), ("f64", .double)]

def find : Finder NumberType := fun s =>
  (named.find? fun entry => entry.1.toList.isPrefixOf s).map fun (name, type) =>
    (type, name.length)

def holds : NumberType → Int → Bool
  | .integer least greatest, value => least ≤ value && value ≤ greatest
  | .single, _ | .double, _ => false

end NumberType

def signed (negative : Bool) (magnitude : Nat) : Int :=
  if negative then -(magnitude : Int) else magnitude

def signedReal (negative : Bool) (magnitude : Float) : Number :=
  .real (if negative then -magnitude else magnitude)

def inBase? (base : Nat) (s : List Char) : Option Nat := do
  let values ← (s.filter (· ≠ '_')).mapM hexDigit?
  if values ≠ [] ∧ s.head? ≠ some '_' ∧ values.all (· < base) then
    some (values.foldl (fun value digit => value * base + digit) 0)
  else none

def basedNumber (base : Nat) (negative : Bool) (s : List Char) : Option (Number × Nat) := do
  let digits := s.takeWhile fun c => (hexDigit? c).isSome || c = '_'
  let value := signed negative (← inBase? base digits)
  let (type, size) := (NumberType.find (s.drop digits.length)).getD (.word, 0)
  if type.holds value then some (.integer value, digits.length + size + 2) else none

def decimalChars : (afterMark : Bool) → List Char → List Char
  | _, [] => []
  | afterMark, c :: s =>
      if c.isDigit ∨ c = '.' ∨ c = '_' ∨ Decimal.isExponentMark c ∨
          (afterMark ∧ (c = '+' ∨ c = '-')) then
        c :: decimalChars (Decimal.isExponentMark c) s
      else []

/-- A decimal number without its underscores, none of which may begin it or follow its point. -/
def ungrouped? (grouping : Bool) : List Char → Option (List Char)
  | [] => some []
  | '_' :: s => if grouping then ungrouped? grouping s else none
  | c :: s => (ungrouped? (c ≠ '.') s).map (c :: ·)

def decimalValue? (negative : Bool) (s : List Char) : NumberType → Option Number
  | .single => (Decimal.readSingle? s).map (signedReal negative)
  | .double => (Decimal.read? s).map (signedReal negative)
  | type =>
      let value := signed negative (Nat.ofDigitChars 10 s 0)
      if s ≠ [] ∧ s.all Char.isDigit ∧ type.holds value then some (.integer value) else none

def decimalNumber (negative : Bool) (s : List Char) : Option (Number × Nat) := do
  let written := decimalChars false s
  let chars ← ungrouped? false written
  match NumberType.find (s.drop written.length) with
  | some (type, size) => (decimalValue? negative chars type).map (·, written.length + size)
  | none =>
      (decimalValue? negative chars .word <|> decimalValue? negative chars .double).map
        (·, written.length)

def realTypeSize (s : List Char) : Nat :=
  match NumberType.find s with
  | some (.single, size) | some (.double, size) => size
  | _ => 0

def unsigned (negative : Bool) : Finder Number
  | '0' :: 'x' :: s => basedNumber 16 negative s
  | '0' :: 'o' :: s => basedNumber 8 negative s
  | '0' :: 'b' :: s => basedNumber 2 negative s
  | 'i' :: 'n' :: 'f' :: s => some (signedReal negative Decimal.infinity, realTypeSize s + 3)
  | 'N' :: 'a' :: 'N' :: s => some (.real Decimal.notANumber, realTypeSize s + 3)
  | s => decimalNumber negative s

def number : Finder Token
  | '-' :: s => (unsigned true s).map fun (value, size) => (.number value, size + 1)
  | '+' :: s => (unsigned false s).map fun (value, size) => (.number value, size + 1)
  | s => (unsigned false s).map fun (value, size) => (.number value, size)

def name : Finder Token
  | 'r' :: '#' :: s =>
      match s.takeWhile isRawNamePart with
      | [] => none
      | chars => some (.name (String.ofList chars), chars.length + 2)
  | s =>
      let chars := s.takeWhile isIdentifierPart
      some (.name (String.ofList chars), chars.length)

def token : Finder Token
  | [] => none
  | '(' :: ')' :: _ => some (.unit, 2)
  | '(' :: _ => some (.openParen, 1)
  | ')' :: _ => some (.closeParen, 1)
  | '[' :: _ => some (.openBracket, 1)
  | ']' :: _ => some (.closeBracket, 1)
  | '{' :: _ => some (.openBrace, 1)
  | '}' :: _ => some (.closeBrace, 1)
  | ',' :: _ => some (.comma, 1)
  | ':' :: _ => some (.colon, 1)
  | '=' :: _ => some (.equals, 1)
  | '#' :: _ => some (.hash, 1)
  | '!' :: _ => some (.bang, 1)
  | '/' :: '/' :: s => some (.space, 2 + (s.takeWhile (· ≠ '\n')).length)
  | '/' :: '*' :: s => (commentSize? 0 s).map fun size => (.space, size + 2)
  | '\'' :: s => charToken? s
  | '"' :: s => stringToken? s
  | 'b' :: '\'' :: s => byteToken? s
  | 'b' :: '"' :: s => bytesToken? s
  | 'b' :: 'r' :: '"' :: s => rawBytes ('"' :: s)
  | 'b' :: 'r' :: '#' :: s => rawBytes ('#' :: s)
  | 'r' :: '"' :: s => rawText ('"' :: s)
  | 'r' :: '#' :: s => rawText ('#' :: s) <|> name ('r' :: '#' :: s)
  | c :: s =>
      if isSpace c then some (.space, ((c :: s).takeWhile isSpace).length)
      else if isNameStart c then name (c :: s)
      else number (c :: s)
where
  rawText (s : List Char) : Option (Token × Nat) :=
    (rawString? s).map fun (content, size) => (.string content, size)
  rawBytes (s : List Char) : Option (Token × Nat) :=
    (rawString? s).map fun (content, size) => (.text content, size + 1)

def tokens? (s : List Char) : Option (List Token) :=
  (scan token s).foldr
    (fun piece rest =>
      match piece with
      | .plain _ => none
      | .found .space => rest
      | .found token => rest.map (token :: ·)) (some [])

end WordHunt.Ron
