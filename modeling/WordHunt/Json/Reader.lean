import WordHunt.Json.Basic
import WordHunt.Json.Tree
import WordHunt.Text.Numeral

/-!
Reading JSON values.  A text is refused as a whole when arrays and objects are nested more than
127 deep, when a string has half of a surrogate pair, or when a number is too large to be
represented.
-/

namespace WordHunt.Json

open Text

def maxDepth : Nat := 127

def isHighSurrogate (code : Nat) : Bool :=
  0xD800 ≤ code && code < 0xDC00

def isLowSurrogate (code : Nat) : Bool :=
  0xDC00 ≤ code && code < 0xE000

def charsOnto? : (done : List Char) → List StringUnit → Option (List Char)
  | done, [] => some done.reverse
  | done, .char c :: units => charsOnto? (c :: done) units
  | done, .code code :: units =>
      if isHighSurrogate code then
        match units with
        | .code low :: units =>
            if isLowSurrogate low then
              charsOnto?
                (Char.ofNat (0x10000 + (code - 0xD800) * 0x400 + (low - 0xDC00)) :: done) units
            else none
        | _ => none
      else if isLowSurrogate code then none
      else charsOnto? (Char.ofNat code :: done) units

def stringText? (units : List StringUnit) : Option String :=
  (charsOnto? [] units).map String.ofList

/-- Adds digits to a significand while it fits a word, and returns the digits left over. -/
def absorb : Nat → List Char → Nat × List Char
  | significand, [] => (significand, [])
  | significand, digit :: digits =>
      let next := significand * 10 + (digit.toNat - '0'.toNat)
      if next < wordBound then absorb next digits else (significand, digit :: digits)

/-- The number `significand * 10 ^ exponent`, rounded at each operation; too large a one is none. -/
def scale? (significand : Nat) (exponent : Int) : Option Float :=
  let value := Float.ofNat significand
  let size := exponent.natAbs
  if 0 ≤ exponent then
    if size ≤ 308 then
      let scaled := value * Float.ofScientific 1 false size
      if scaled.isInf then none else some scaled
    else if significand = 0 then some 0.0 else none
  else if size ≤ 308 then some (value / Float.ofScientific 1 false size)
  else if size ≤ 616 then some (value / 1e308 / Float.ofScientific 1 false (size - 308))
  else some 0.0

def Numeral.value? (numeral : Numeral) : Option Number :=
  let (significand, overflow) := absorb 0 numeral.whole
  if numeral.fraction = [] ∧ numeral.exponent = none ∧ overflow = [] ∧
      (numeral.negative → significand ≠ 0 ∧ significand ≤ 0x8000000000000000) then
    some (.integer (if numeral.negative then -significand else significand))
  else
    let (significand, rest) := absorb significand numeral.fraction
    let places : Int := overflow.length - (numeral.fraction.length - rest.length)
    let exponent : Int :=
      match numeral.exponent with
      | some (true, digits) => -(Nat.ofDigitChars 10 digits 0)
      | some (false, digits) => Nat.ofDigitChars 10 digits 0
      | none => 0
    (scale? significand (places + exponent)).map fun value =>
      .real (if numeral.negative then -value else value)

mutual

/-- The value of a structure nested at most `room` deep. -/
def Tree.value? (room : Nat) : Tree → Option Json
  | .null => some .null
  | .boolean value => some (.boolean value)
  | .number numeral => numeral.value?.map .number
  | .string units => (stringText? units).map .string
  | .array items =>
      match room with
      | 0 => none
      | room + 1 => (itemValues? room items).map .array
  | .object members =>
      match room with
      | 0 => none
      | room + 1 => (memberValues? room members).map ofMembers

def itemValues? (room : Nat) : List Tree → Option (List Json)
  | [] => some []
  | tree :: trees => do
      let value ← tree.value? room
      let values ← itemValues? room trees
      some (value :: values)

def memberValues? (room : Nat) : List (List StringUnit × Tree) → Option (List (String × Json))
  | [] => some []
  | (name, tree) :: members => do
      let name ← stringText? name
      let value ← tree.value? room
      let values ← memberValues? room members
      some ((name, value) :: values)

end

def ofChars? (s : List Char) : Option Json :=
  (Tree.ofText? s).bind (Tree.value? maxDepth)

def ofText? (text : String) : Option Json :=
  ofChars? text.toList

end WordHunt.Json
