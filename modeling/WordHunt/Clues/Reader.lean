import WordHunt.Clues.Basic
import WordHunt.Clues.Line
import WordHunt.Text.Case
import WordHunt.Text.Line

/-!
Reading clues from text.  Lines of none of the known forms are passed over, and a later line
about the same position, the same letter or the length replaces an earlier one.
-/

namespace WordHunt.Clues

open Text

/-- The highest position, counted from one, at which a letter can be settled. -/
def maxPlace : Nat := 9

def add (clues : Clues) : ClueLine → Clues
  | .exact letter (some (position + 1)) =>
      if position < maxPlace then { clues with exact := clues.exact.insert position letter }
      else clues
  | .exact _ _ => clues
  | .absent letters => { clues with absent := clues.absent ++ letters }
  | .present letter excluded => { clues with present := clues.present.insert letter excluded }
  | .length (some (length + 1)) => { clues with length := length + 1 }
  | .length _ => clues

def clueLines (text : String) : List ClueLine :=
  (lines text.toList).filterMap fun line => ClueLine.read? (upper (trim line))

def ofText (text : String) : Clues :=
  (clueLines text).foldl add {}

end WordHunt.Clues
