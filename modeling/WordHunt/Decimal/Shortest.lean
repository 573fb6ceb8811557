/-!
The shortest decimal that identifies a binary floating-point number.  A finite number stands
for the interval of reals that round to it; of the decimals in that interval the shortest one
is taken, and of two equally short ones the nearer.  All comparisons are made on integers.
-/

namespace WordHunt.Decimal

/-- A positive finite binary number `mantissa * 2 ^ exponent`. -/
structure Binary where
  mantissa : Nat
  exponent : Int
  /-- The gap to the next smaller number is half the gap to the next larger one. -/
  narrowBelow : Bool
  deriving DecidableEq, Repr

def Binary.ofFloat (value : Float) : Binary :=
  let bits := value.toBits.toNat
  let exponent : Nat := bits / Nat.pow 2 52 % Nat.pow 2 11
  let fraction : Nat := bits % Nat.pow 2 52
  if exponent = 0 then ⟨fraction, -1074, false⟩
  else ⟨Nat.pow 2 52 + fraction, (exponent : Int) - 1075, fraction = 0 ∧ 1 < exponent⟩

/-- The decimal number `digits * 10 ^ exponent`. -/
structure Scaled where
  digits : Nat
  exponent : Int
  deriving DecidableEq, Repr

def compareScaled (decimal : Scaled) (mantissa : Nat) (power : Int) : Ordering :=
  compare (decimal.digits * Nat.pow 10 decimal.exponent.toNat * Nat.pow 2 (-power).toNat)
    (mantissa * Nat.pow 2 power.toNat * Nat.pow 10 (-decimal.exponent).toNat)

/-- Whether a decimal lies in the interval of reals that round to a binary number. -/
def Binary.readsBack (value : Binary) (decimal : Scaled) : Bool :=
  let below := if value.narrowBelow then 4 * value.mantissa - 1 else 4 * value.mantissa - 2
  let above := 4 * value.mantissa + 2
  let closed := value.mantissa % 2 = 0
  let low := compareScaled decimal below (value.exponent - 2)
  let high := compareScaled decimal above (value.exponent - 2)
  (low = .gt ∨ closed ∧ low = .eq) ∧ (high = .lt ∨ closed ∧ high = .eq)

inductive Tie where
  | toEven
  | up
  deriving DecidableEq, Repr

/-- The integer part of `mantissa * 2 ^ exponent / 10 ^ scale`. -/
def Binary.quotient (value : Binary) (scale : Int) : Nat :=
  value.mantissa * Nat.pow 2 value.exponent.toNat * Nat.pow 10 (-scale).toNat /
    (Nat.pow 10 scale.toNat * Nat.pow 2 (-value.exponent).toNat)

/-- A decimal exponent that the number does not reach, at most a few steps too large. -/
def Binary.topScale (value : Binary) : Int :=
  let bits := (Nat.log2 value.mantissa : Int) + 1 + value.exponent
  bits * 30103 / 100000 + 2

/-- Of two neighbours on a decimal grid, the one that identifies the number, if any does. -/
def Binary.onGrid? (tie : Tie) (value : Binary) (scale : Int) : Option Scaled :=
  let lower : Scaled := ⟨value.quotient scale, scale⟩
  let upper : Scaled := ⟨value.quotient scale + 1, scale⟩
  match value.readsBack lower, value.readsBack upper with
  | false, false => none
  | true, false => some lower
  | false, true => some upper
  | true, true =>
      let middle : Scaled := ⟨lower.digits + upper.digits, scale⟩
      match compareScaled middle (2 * value.mantissa) value.exponent with
      | .gt => some lower
      | .lt => some upper
      | .eq =>
          if tie = .toEven ∧ lower.digits % 2 = 0 then some lower else some upper

def Scaled.strip : (limit : Nat) → Scaled → Scaled
  | 0, decimal => decimal
  | limit + 1, decimal =>
      if decimal.digits ≠ 0 ∧ decimal.digits % 10 = 0 then
        Scaled.strip limit ⟨decimal.digits / 10, decimal.exponent + 1⟩
      else decimal

/-- The exact value, for a number that no grid of seventeen digits identifies. -/
def Binary.exactly (value : Binary) : Scaled :=
  ⟨value.mantissa * Nat.pow 2 value.exponent.toNat * Nat.pow 5 (-value.exponent).toNat,
    -((-value.exponent).toNat : Int)⟩

def Binary.shortest (tie : Tie) (value : Binary) : Scaled :=
  let top := value.topScale
  let found := (List.range 24).findSome? fun (step : Nat) =>
    let scale := top - (step : Int)
    match value.onGrid? tie scale with
    | some decimal => if decimal.digits = 0 then none else some decimal
    | none => none
  (found.getD value.exactly).strip 400

end WordHunt.Decimal
