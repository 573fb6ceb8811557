import WordHunt.Proofs.Blame
import WordHunt.Proofs.Text.Capitals

/-!
# Screening splits a list of words

Each word is either accepted or turned away with one violation, and the tally counts every
violation once under its kind.  A word of the right length is never turned away for its length.
-/

namespace WordHunt

open Text

/-! ## Words of the right length -/

theorem Clues.kind_ne_length (clues : Clues) {violation : Violation} {word : String}
    (hlength : word.length = clues.length) (h : clues.violation? word = some violation) :
    violation.kind ≠ .length := by
  obtain ⟨-, hfirst⟩ := (clues.violation?_eq_some_iff word violation).mp h
  cases violation with
  | length actual =>
      obtain ⟨hactual, hother⟩ := hfirst
      rw [capitals, List.length_map, String.length_toList] at hactual
      exact absurd (hactual.symm.trans hlength) hother
  | exact | absent | missing | misplaced => exact Violation.Kind.noConfusion

/-! ## Counting -/

theorem Violation.Kind.mem_all (kind : Violation.Kind) : kind ∈ all := by
  cases kind <;> decide

namespace Screening

theorem sum_countP_kind (violations : List Violation) :
    (Violation.Kind.all.map fun kind => violations.countP (·.kind = kind)).sum =
      violations.length := by
  induction violations with
  | nil => rfl
  | cons violation violations ih =>
      simp only [Violation.Kind.all, List.map_cons, List.map_nil, List.countP_cons,
        List.sum_cons, List.sum_nil, List.length_cons] at ih ⊢
      cases violation.kind <;> simp <;> omega

theorem sum_filter_ne_zero {κ : Type} (counts : List (κ × Nat)) :
    ((counts.filter (·.2 ≠ 0)).map Prod.snd).sum = (counts.map Prod.snd).sum := by
  induction counts with
  | nil => rfl
  | cons entry counts ih =>
      by_cases hentry : entry.2 = 0 <;> simp_all

variable (screening : Screening)

theorem sum_tally : (screening.tally.map Prod.snd).sum = screening.rejected := by
  rw [tally, sum_filter_ne_zero, List.map_map, rejected, ← sum_countP_kind]
  rfl

theorem mem_tally_iff {kind : Violation.Kind} {count : Nat} :
    (kind, count) ∈ screening.tally ↔ 0 < count ∧ screening.count kind = count := by
  simp only [tally, List.mem_filter, List.mem_map, Prod.mk.injEq, decide_eq_true_eq]
  constructor
  · rintro ⟨⟨other, -, rfl, rfl⟩, hcount⟩
    exact ⟨Nat.pos_of_ne_zero hcount, rfl⟩
  · rintro ⟨hcount, rfl⟩
    exact ⟨⟨kind, kind.mem_all, rfl, rfl⟩, Nat.ne_of_gt hcount⟩

theorem mem_tally {kind : Violation.Kind} {count : Nat} (h : (kind, count) ∈ screening.tally) :
    0 < count ∧ ∃ violation ∈ screening.violations, violation.kind = kind := by
  obtain ⟨hpos, rfl⟩ := screening.mem_tally_iff.mp h
  refine ⟨hpos, ?_⟩
  simpa [Screening.count, List.countP_pos_iff] using hpos

end Screening

/-! ## Accepted words -/

namespace Clues

variable (clues : Clues) (words : List String)

theorem length_accepted_add_rejected :
    (clues.screen words).accepted.length + (clues.screen words).rejected = words.length := by
  simp only [screen, Screening.rejected, List.length_map]
  induction words with
  | nil => rfl
  | cons word words ih =>
      cases hword : clues.violation? word <;>
        simp [fits, hword] at ih ⊢ <;> omega

theorem accepted_of_raised (h : ∀ word ∈ words, upperCase word = word) :
    (clues.screen words).accepted = words.filter clues.fits := by
  have hsame : ∀ word ∈ words.filter clues.fits, upperCase word = id word :=
    fun word hword => h word (List.mem_of_mem_filter hword)
  rw [screen, List.map_congr_left hsame, List.map_id]

theorem accepted_of_isCapitals (h : ∀ word ∈ words, IsCapitals word.toList) :
    (clues.screen words).accepted = words.filter clues.fits :=
  clues.accepted_of_raised words fun word hword => upperCase_of_isCapitals (h word hword)

end Clues

end WordHunt
