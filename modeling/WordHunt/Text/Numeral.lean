/-!
Decimal numerals.  Writing uses the digits `0` to `9` without leading zeros; reading accepts
any number of them, leading zeros included, as long as the value stays below a bound.
-/

namespace WordHunt.Text

/-- Counts and positions stay below this bound, that of a 64-bit word. -/
def wordBound : Nat := 0x10000000000000000

def fitsSigned (value : Int) : Bool :=
  -0x8000000000000000 ≤ value && value < 0x8000000000000000

def numeral (n : Nat) : List Char :=
  Nat.toDigits 10 n

def numeralText (n : Nat) : String :=
  String.ofList (numeral n)

def integerText (value : Int) : String :=
  (if value < 0 then "-" else "") ++ numeralText value.natAbs

def readNumeral (bound : Nat) (digits : List Char) : Option Nat :=
  if digits ≠ [] ∧ digits.all Char.isDigit then
    let value := Nat.ofDigitChars 10 digits 0
    if value < bound then some value else none
  else none

end WordHunt.Text
