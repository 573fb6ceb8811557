import WordHunt.Decimal.Nearest

/-!
The floating-point number of single precision nearest to a decimal: its significand has 24 bits,
and its exponent 8.  A quotient of integers is rounded, a half to the even neighbour.
-/

namespace WordHunt.Decimal

/-- A quotient rounded to an integer, a half to the even one. -/
def roundedQuotient (numerator denominator : Nat) : Nat :=
  let quotient := numerator / denominator
  let twice := 2 * (numerator % denominator)
  if denominator < twice ∨ twice = denominator ∧ quotient % 2 = 1 then quotient + 1 else quotient

def shiftedQuotient (numerator denominator : Nat) (power : Int) : Nat × Nat :=
  (numerator * Nat.pow 2 (-power).toNat, denominator * Nat.pow 2 power.toNat)

/-- The power of two that the last bit of a quotient stands for, if 24 bits are kept of it. -/
def lastBitPower (numerator denominator : Nat) : Int :=
  let guess : Int := (Nat.log2 numerator : Int) - Nat.log2 denominator - 24
  let (above, below) := shiftedQuotient numerator denominator guess
  if above < Nat.pow 2 24 * below then guess else guess + 1

def singleBits (numerator denominator : Nat) : Nat :=
  let power := max (lastBitPower numerator denominator) (-149)
  let (above, below) := shiftedQuotient numerator denominator power
  let bits := (power + 149).toNat * Nat.pow 2 23 + roundedQuotient above below
  min bits 0x7F800000

def Scaled.nearestSingle (decimal : Scaled) : Float :=
  let lead := ((Text.numeral decimal.digits).length : Int) + decimal.exponent
  if decimal.digits = 0 ∨ lead < -50 then 0.0
  else if 50 < lead then magnitude 0x7FF0000000000000
  else
    let numerator := decimal.digits * Nat.pow 10 decimal.exponent.toNat
    let denominator := Nat.pow 10 (-decimal.exponent).toNat
    (Float32.ofBits (singleBits numerator denominator).toUInt32).toFloat

end WordHunt.Decimal
