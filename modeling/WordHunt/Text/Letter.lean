/-!
The capital letters `A` to `Z`, of which words and clues are made.
-/

namespace WordHunt.Text

def isCapital (c : Char) : Bool :=
  'A' ≤ c && c ≤ 'Z'

def capitalRuns (s : List Char) : List (List Char) :=
  (s.splitOnP fun c => !isCapital c).filter (· ≠ [])

end WordHunt.Text
