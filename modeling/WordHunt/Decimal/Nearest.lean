import WordHunt.Decimal.Shortest
import WordHunt.Text.Numeral

/-!
The floating-point number nearest to a decimal.  A first guess is compared exactly with the
decimal; if it is off by a rounding, one of its two neighbours is the number.
-/

namespace WordHunt.Decimal

open Text

def magnitude (bits : Int) : Float :=
  Float.ofBits bits.toNat.toUInt64

def Scaled.roundsTo (decimal : Scaled) (value : Float) : Bool :=
  let binary := Binary.ofFloat value
  if binary.mantissa = 0 then compareScaled decimal 1 (-1075) ≠ .gt
  else binary.readsBack decimal

def Scaled.nearest (decimal : Scaled) : Float :=
  let lead := ((numeral decimal.digits).length : Int) + decimal.exponent
  if decimal.digits = 0 ∨ lead < -330 then 0.0
  else if 310 < lead then magnitude 0x7FF0000000000000
  else
    let guess :=
      Float.ofScientific decimal.digits (decimal.exponent < 0) decimal.exponent.natAbs
    let bits : Int := guess.toBits.toNat
    let choices :=
      if guess.isInf then [magnitude (bits - 1)]
      else [guess, magnitude (bits + 1), magnitude (bits - 1)]
    (choices.find? decimal.roundsTo).getD guess

end WordHunt.Decimal
