import WordHunt.Clues.Reader
import WordHunt.Proofs.Clues.Forms
import WordHunt.Proofs.Text.UpperAgain

/-!
# The forms may be tried in any order

A line is read as the first of the forms that it has.  But no line has two of them: each form is
known by the character behind the first one and the blanks after it.  So it does not matter which
form is tried first.
-/

namespace WordHunt

open Text

namespace ClueLine

namespace Form

def firstOf? (order : List Form) (line : List Char) : Option ClueLine :=
  order.findSome? (read? line)

theorem firstOf?_all (line : List Char) : firstOf? all line = ClueLine.read? line := by
  rw [read?_eq_or, firstOf?]
  simp only [all, List.findSome?_cons, List.findSome?_nil, read?]
  cases exactForm? line <;> cases absentForm? line <;> cases presentForm? line <;>
    cases lengthForm? line <;> rfl

theorem firstOf?_eq_some_iff {order : List Form} {line : List Char} {clue : ClueLine} :
    firstOf? order line = some clue ↔ ∃ form ∈ order, form.read? line = some clue := by
  constructor
  · exact List.exists_of_findSome?_eq_some
  · rintro ⟨form, hmem, hread⟩
    have hsome : (firstOf? order line).isSome = true :=
      List.findSome?_isSome_iff.mpr ⟨form, hmem, Option.isSome_iff_exists.mpr ⟨clue, hread⟩⟩
    obtain ⟨first, hfirst⟩ := Option.isSome_iff_exists.mp hsome
    obtain ⟨other, -, hother⟩ := List.exists_of_findSome?_eq_some hfirst
    -- Whichever form comes first, it is the only one that reads the line.
    obtain rfl := eq_of_read? hread hother
    rw [hfirst, ← hother, hread]

theorem firstOf?_of_perm {order : List Form} (h : order.Perm all) (line : List Char) :
    firstOf? order line = ClueLine.read? line := by
  refine Option.ext fun clue => ?_
  simp only [← firstOf?_all, firstOf?_eq_some_iff, h.mem_iff]

end Form

end ClueLine

namespace Clues

open ClueLine

/-- Reads clues from text, trying the forms of a line in an order of their own. -/
def ofTextIn (order : List Form) (text : String) : Clues :=
  ((lines text.toList).filterMap fun line =>
    Form.firstOf? order (upper (trim line))).foldl add {}

/--
No line of a text, trimmed and in upper case, matches two of the forms, and a form reads it exactly
if the line matches.  So the clues are the same in whatever order the forms are tried.
-/
theorem ofTextIn_any_order (text : String) :
    (∀ line ∈ lines text.toList, ∀ form : Form,
      ((form.read? (upper (trim line))).isSome = true ↔ form.Matches (upper (trim line))) ∧
        ∀ other : Form, form.Matches (upper (trim line)) → other.Matches (upper (trim line)) →
          form = other) ∧
      ∀ order : List Form, order.Perm Form.all → ofTextIn order text = ofText text := by
  constructor
  · intro line _ form
    have htrimmed : IsTrimmed (upper (trim line)) := isTrimmed_upper (isTrimmed_trim line)
    exact ⟨Form.isSome_read?_iff htrimmed, fun other => Form.Matches.unique⟩
  · intro order horder
    rw [ofTextIn, ofText, clueLines]
    congr 1
    exact List.filterMap_congr fun line _ => Form.firstOf?_of_perm horder _

/-- A letter at a position may look like what does not occur, but only to a first glance. -/
theorem ofTextIn_any_order_sample :
    let order : List Form := [.length, .present, .absent, .exact]
    let text := "n at 3\nno at 3, t\nn in word, not at 1\nlength : 4"
    order.Perm Form.all ∧ ofTextIn order text = ofText text ∧
      (ofText text).exact.toList = [(2, 'N')] ∧ (ofText text).absent = ['T'] := by
  intro order text
  have horder : order.Perm Form.all := by decide
  exact ⟨horder, (ofTextIn_any_order text).2 order horder, by decide +kernel, by decide +kernel⟩

end Clues

end WordHunt
