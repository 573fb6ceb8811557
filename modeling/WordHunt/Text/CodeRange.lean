/-!
Closed ranges of code points, the form in which character properties are tabulated.
-/

namespace WordHunt.Text

abbrev CodeRange := Nat × Nat

def inRanges : List CodeRange → Nat → Bool
  | [], _ => false
  | range :: ranges, code =>
      if code < range.1 then false
      else if code ≤ range.2 then true
      else inRanges ranges code

def ascending : List CodeRange → Bool
  | [] => true
  | [range] => range.1 ≤ range.2
  | range :: next :: ranges =>
      range.1 ≤ range.2 && range.2 + 1 < next.1 && ascending (next :: ranges)

end WordHunt.Text
