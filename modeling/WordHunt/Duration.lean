import WordHunt.Text.Numeral

/-!
Spans of time, in whole nanoseconds up to a fixed longest span.
-/

namespace WordHunt

open Text

structure Duration where
  nanos : Nat
  deriving DecidableEq, Repr

namespace Duration

/-- The longest span: one nanosecond short of 2⁶⁴ seconds. -/
def longest : Duration :=
  ⟨wordBound * 1000000000 - 1⟩

def zero : Duration :=
  ⟨0⟩

def ofMillis (count : Nat) : Duration :=
  ⟨count * 1000000⟩

def ofSecs (count : Nat) : Duration :=
  ⟨count * 1000000000⟩

def millis (span : Duration) : Nat :=
  span.nanos / 1000000

def secs (span : Duration) : Nat :=
  span.nanos / 1000000000

def double (span : Duration) : Duration :=
  ⟨min (2 * span.nanos) longest.nanos⟩

/-- A fraction of at most `places` digits behind a point, zeros at its end left out. -/
def fractionText (places fraction : Nat) : String :=
  let digits := numeral fraction
  let padded := List.replicate (places - digits.length) '0' ++ digits
  match (padded.reverse.dropWhile (· = '0')).reverse with
  | [] => ""
  | digits => String.ofList ('.' :: digits)

/-- The span in the largest of the units s, ms, µs and ns that it fills. -/
def toText (span : Duration) : String :=
  if 1000000000 ≤ span.nanos then
    numeralText (span.nanos / 1000000000) ++ fractionText 9 (span.nanos % 1000000000) ++ "s"
  else if 1000000 ≤ span.nanos then
    numeralText (span.nanos / 1000000) ++ fractionText 6 (span.nanos % 1000000) ++ "ms"
  else if 1000 ≤ span.nanos then
    numeralText (span.nanos / 1000) ++ fractionText 3 (span.nanos % 1000) ++ "µs"
  else numeralText span.nanos ++ "ns"

end Duration

end WordHunt
