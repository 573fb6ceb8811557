import WordHunt.Decimal.Single

/-!
Reading decimal numbers: a sign, digits with a point anywhere among them, and an exponent.
Everything but one digit may be left out.
-/

namespace WordHunt.Decimal

def cutSign : List Char → Bool × List Char
  | '-' :: s => (true, s)
  | '+' :: s => (false, s)
  | s => (false, s)

def isExponentMark (c : Char) : Bool :=
  c = 'e' || c = 'E'

def readInteger? (s : List Char) : Option Int :=
  let (negative, digits) := cutSign s
  if digits ≠ [] ∧ digits.all Char.isDigit then
    let value := Nat.ofDigitChars 10 digits 0
    some (if negative then -(value : Int) else value)
  else none

def readExponent? : List Char → Option Int
  | [] => some 0
  | _ :: s => readInteger? s

def readFraction? : List Char → Option (List Char)
  | [] => some []
  | _ :: digits => if digits.all Char.isDigit then some digits else none

def readScaled? (s : List Char) : Option Scaled := do
  let mantissa := s.takeWhile fun c => !isExponentMark c
  let whole := mantissa.takeWhile (· ≠ '.')
  let fraction ← readFraction? (mantissa.dropWhile (· ≠ '.'))
  let exponent ← readExponent? (s.drop mantissa.length)
  if whole.all Char.isDigit ∧ whole ++ fraction ≠ [] then
    some ⟨Nat.ofDigitChars 10 (whole ++ fraction) 0, exponent - (fraction.length : Int)⟩
  else none

def infinity : Float :=
  magnitude 0x7FF0000000000000

def notANumber : Float :=
  magnitude 0x7FF8000000000000

/--
The value of a number, rounded to a floating-point number; infinity and no number at all are
spelled out, in any case.
-/
def readTo? (nearest : Scaled → Float) (s : List Char) : Option Float :=
  let (negative, s) := cutSign s
  let small := String.ofList (s.map Char.toLower)
  let value? :=
    if small = "inf" ∨ small = "infinity" then some infinity
    else if small = "nan" then some notANumber
    else (readScaled? s).map nearest
  value?.map fun value => if negative then -value else value

def read? : List Char → Option Float :=
  readTo? Scaled.nearest

def readSingle? : List Char → Option Float :=
  readTo? Scaled.nearestSingle

end WordHunt.Decimal
