/-!
Case mappings of single characters, as runs of characters that all move by one distance.
-/

namespace WordHunt.Text

/--
Every `step`-th code point from `first` to `last` maps to the one `distance` away.  Scripts
whose two cases alternate have `step = 2`.
-/
structure CaseShift where
  first : Nat
  last : Nat
  step : Nat
  distance : Int
  deriving DecidableEq, Repr

namespace CaseShift

def covers (shift : CaseShift) (code : Nat) : Bool :=
  shift.first ≤ code && code ≤ shift.last && (code - shift.first) % shift.step == 0

def apply (shift : CaseShift) (code : Nat) : Char :=
  Char.ofNat ((code : Int) + shift.distance).toNat

end CaseShift

def shiftCase (shifts : List CaseShift) (c : Char) : Char :=
  match shifts.find? (·.covers c.toNat) with
  | some shift => shift.apply c.toNat
  | none => c

end WordHunt.Text
