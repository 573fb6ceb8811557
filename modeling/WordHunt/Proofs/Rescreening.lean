import WordHunt.Clues.Reader
import WordHunt.Proofs.Text.UpperCase
import WordHunt.Screening

/-!
# Screening what was accepted

Words are compared with their small letters `a` to `z` taken for capitals, but they are accepted
in full upper case.  Where both come to the same, a second screening accepts the same words again.
They part where another character has a capital, or several, as its upper case.
-/

namespace WordHunt

/-! ## The two upper cases -/

namespace Text

theorem map_toUpper_map_toUpper (s : List Char) :
    (s.map Char.toUpper).map Char.toUpper = s.map Char.toUpper := by
  simp

/-- The full upper case changes nothing but the letters `a` to `z`. -/
def UppersPlainly (s : List Char) : Prop :=
  ∀ c ∈ s, upperChar c = [c.toUpper]

instance (s : List Char) : Decidable (UppersPlainly s) :=
  decidable_of_iff (s.all fun c => upperChar c = [c.toUpper]) (by simp [UppersPlainly])

namespace UppersPlainly

variable {s : List Char} (h : UppersPlainly s)
include h

theorem upper_eq : upper s = s.map Char.toUpper := by
  rw [upper, List.map_eq_flatMap]
  exact List.flatMap_congr h

theorem map_toUpper : UppersPlainly (s.map Char.toUpper) := by
  intro upper hupper
  obtain ⟨c, hc, rfl⟩ := List.mem_map.mp hupper
  by_cases hlower : c.isLower
  · have hrange := toNat_toUpper_of_isLower hlower
    exact upperChar_of_ascii (by omega)
  · rw [Char.toUpper_eq_of_not_isLower hlower, h c hc, Char.toUpper_eq_of_not_isLower hlower]

end UppersPlainly

end Text

open Text

namespace Clues

variable (clues : Clues)

section UppersPlainly

variable {word : String} (h : UppersPlainly word.toList)
include h

theorem toList_upperCase : (upperCase word).toList = word.toList.map Char.toUpper := by
  rw [upperCase, String.toList_ofList, h.upper_eq]

theorem violation?_upperCase : clues.violation? (upperCase word) = clues.violation? word := by
  simp only [violation?, toList_upperCase h, map_toUpper_map_toUpper]

theorem upperCase_upperCase : upperCase (upperCase word) = upperCase word := by
  rw [upperCase, toList_upperCase h, h.map_toUpper.upper_eq, map_toUpper_map_toUpper,
    ← toList_upperCase h, String.ofList_toList]

end UppersPlainly

/--
Of words whose full upper case only changes `a` to `z`, those that are accepted are accepted again
as they are, and none of them is turned away.
-/
theorem screen_accepted {words : List String} (h : ∀ word ∈ words, UppersPlainly word.toList) :
    clues.screen (clues.screen words).accepted = ⟨(clues.screen words).accepted, []⟩ := by
  have hfits : ∀ word ∈ (clues.screen words).accepted, clues.violation? word = none := by
    intro word hword
    obtain ⟨origin, horigin, rfl⟩ := List.mem_map.mp hword
    obtain ⟨hmem, hfits⟩ := List.mem_filter.mp horigin
    rw [clues.violation?_upperCase (h origin hmem)]
    exact Option.isNone_iff_eq_none.mp hfits
  have hkept : (clues.screen words).accepted.filter clues.fits = (clues.screen words).accepted :=
    List.filter_eq_self.mpr fun word hword => by rw [fits, hfits word hword]; rfl
  have hsame : (clues.screen words).accepted.map upperCase = (clues.screen words).accepted := by
    rw [screen, List.map_map]
    refine List.map_congr_left fun word hword => ?_
    exact upperCase_upperCase (h word (List.mem_of_mem_filter hword))
  rw [screen, hkept, hsame, List.filterMap_eq_nil_iff.mpr hfits]

theorem screen_accepted_sample :
    let clues := Clues.ofText "NO S"
    let words := ["crane", "stare", "ŒUVRe"]
    (∀ word ∈ words, UppersPlainly word.toList) ∧
      (clues.screen words).accepted = ["CRANE", "ŒUVRE"] ∧
      clues.screen ["CRANE", "ŒUVRE"] = ⟨["CRANE", "ŒUVRE"], []⟩ := by
  intro clues words
  have hplain : ∀ word ∈ words, UppersPlainly word.toList := by decide +kernel
  have haccepted : (clues.screen words).accepted = ["CRANE", "ŒUVRE"] := by decide +kernel
  have hagain := clues.screen_accepted hplain
  rw [haccepted] at hagain
  exact ⟨hplain, haccepted, hagain⟩

/-- A long s is no S, but it is accepted as one. -/
theorem accepted_word_turned_away :
    ((Clues.ofText "NO S").screen ["ſtare"]).accepted = ["STARE"] ∧
      (Clues.ofText "NO S").violation? "STARE" = some (.absent 'S') := by
  decide +kernel

end Clues

end WordHunt
