import WordHunt.Clues.Reader
import WordHunt.Proofs.Clues.Forms
import WordHunt.Proofs.Text.Capitals

/-!
# Clues stay within bounds

Whatever a line is read as, its letters are capitals and its numbers fit a word of memory.  Adding
what such a line says keeps clues that can be printed printable, so the clues of any text are.
-/

namespace WordHunt

open Text

/-! ## Lines within bounds -/

namespace ClueLine

def InBounds : ClueLine → Prop
  | .exact letter _ => isCapital letter = true
  | .absent letters => IsCapitals letters
  | .present letter excluded =>
      isCapital letter = true ∧ ∀ position ∈ excluded, position + 1 < wordBound
  | .length value => ∀ length ∈ value, length < wordBound

theorem isCapitals_listedLetters (s : List Char) : IsCapitals (listedLetters s) := by
  intro letter hletter
  rw [listedLetters_eq] at hletter
  exact List.of_mem_filter hletter

theorem lt_of_mem_listedPositions {s : List Char} {position : Nat}
    (h : position ∈ listedPositions s) : position + 1 < wordBound := by
  rw [listedPositions_eq] at h
  obtain ⟨place, hplace, rfl⟩ := List.mem_map.mp h
  obtain ⟨hfields, hpositive⟩ := List.mem_filter.mp hplace
  obtain ⟨field, -, hvalue⟩ := List.mem_filterMap.mp hfields
  have hbound := readNumeral_lt hvalue
  have hplace' : 1 ≤ place := of_decide_eq_true hpositive
  omega

theorem inBounds_of_read? {line : List Char} {clue : ClueLine} (h : read? line = some clue) :
    clue.InBounds := by
  obtain ⟨letter, digits, hline, rfl⟩ | ⟨rest, -, rfl⟩ | ⟨letter, part, hline, rfl⟩ |
    ⟨digits, -, rfl⟩ := read?_cases h
  · exact hline.1
  · exact isCapitals_listedLetters rest
  · exact ⟨hline.1, fun position => lt_of_mem_listedPositions⟩
  · exact fun length => readNumeral_lt

end ClueLine

/-! ## Clues within bounds -/

namespace Clues

/-- Clues whose letters are capitals and whose numbers fit a word of memory. -/
structure Printable (clues : Clues) : Prop where
  exact : ∀ position letter, clues.exact[position]? = some letter →
    isCapital letter = true ∧ position < maxPlace
  present : ∀ letter positions, clues.present[letter]? = some positions →
    isCapital letter = true ∧ ∀ position ∈ positions, position + 1 < wordBound
  absent : IsCapitals clues.absent
  length : 0 < clues.length ∧ clues.length < wordBound

theorem printable_empty : Printable {} where
  exact position letter h := by simp at h
  present letter positions h := by simp at h
  absent letter h := by cases h
  length := by decide

theorem forall_insert {κ α : Type} {cmp : κ → κ → Ordering} [Std.TransCmp cmp]
    [Std.LawfulEqCmp cmp] {entries : Std.ExtTreeMap κ α cmp} {property : κ → α → Prop} {key : κ}
    {value : α} (h : ∀ other found, entries[other]? = some found → property other found)
    (hnew : property key value) :
    ∀ other found, (entries.insert key value)[other]? = some found → property other found := by
  intro other found hentry
  rw [Std.ExtTreeMap.getElem?_insert] at hentry
  split at hentry
  · next hsame =>
      obtain rfl := Std.LawfulEqCmp.eq_of_compare hsame
      exact Option.some.inj hentry ▸ hnew
  · exact h other found hentry

theorem Printable.add {clues : Clues} (h : clues.Printable) {line : ClueLine}
    (hline : line.InBounds) : (clues.add line).Printable := by
  cases line with
  | exact letter place =>
      rcases place with _ | _ | position
      · exact h
      · exact h
      · rw [Clues.add]
        split
        · next hplace => exact { h with exact := forall_insert h.exact ⟨hline, hplace⟩ }
        · exact h
  | absent letters =>
      refine { h with absent := fun letter hletter => ?_ }
      exact (List.mem_append.mp hletter).elim (h.absent letter) (hline letter)
  | present letter excluded => exact { h with present := forall_insert h.present hline }
  | length value =>
      rcases value with _ | _ | length
      · exact h
      · exact h
      · exact { h with length := ⟨Nat.succ_pos length, hline _ rfl⟩ }

theorem printable_addAll {lines : List ClueLine} (h : ∀ line ∈ lines, line.InBounds) :
    (lines.foldl add {}).Printable :=
  List.foldlRecOn lines add printable_empty fun _ hclues line hline => hclues.add (h line hline)

theorem ofText_printable (text : String) : (ofText text).Printable := by
  refine printable_addAll fun clue hclue => ?_
  obtain ⟨line, -, hread⟩ := List.mem_filterMap.mp hclue
  exact ClueLine.inBounds_of_read? hread

end Clues

end WordHunt
