import Mathlib
import WordHunt.Proofs.Text.Capitals

/-!
# Texts in upper case

A text in upper case has no letter from `a` to `z`, so its letters among the first 128 characters
are capitals, and such a text without small letters is its own upper case.
-/

namespace WordHunt.Text

theorem upperChar_of_ascii {c : Char} (hc : c.toNat < 0x80) : upperChar c = [c.toUpper] :=
  if_pos hc

theorem mem_upperChar_cases {c upper : Char} (h : upper ∈ upperChar c) :
    (c.toNat < 0x80 ∧ upper = c.toUpper) ∨
    (∃ codes, (c.toNat, codes) ∈ upperExpansions ∧ ∃ code ∈ codes, upper = Char.ofNat code) ∨
    (∃ shift ∈ upperShifts, shift.covers c.toNat = true ∧ upper = shift.apply c.toNat) ∨
    (0x80 ≤ c.toNat ∧ upperChar c = [c] ∧ upper = c) := by
  by_cases hascii : c.toNat < 0x80
  · rw [upperChar_of_ascii hascii] at h
    exact .inl ⟨hascii, List.mem_singleton.mp h⟩
  · rw [upperChar, if_neg hascii] at h ⊢
    cases hlookup : upperExpansions.lookup c.toNat with
    | some codes =>
        simp only [hlookup] at h
        obtain ⟨code, hcode, rfl⟩ := List.mem_map.mp h
        obtain ⟨before, after, hsplit, -⟩ := List.lookup_eq_some_iff.mp hlookup
        exact .inr (.inl ⟨codes, by simp [hsplit], code, hcode, rfl⟩)
    | none =>
        simp only [hlookup, shiftCase] at h ⊢
        cases hfind : upperShifts.find? (·.covers c.toNat) with
        | some shift =>
            simp only [hfind] at h
            have hcovers : shift.covers c.toNat = true := by simpa using List.find?_some hfind
            exact .inr (.inr (.inl ⟨shift, List.mem_of_find?_eq_some hfind, hcovers,
              List.mem_singleton.mp h⟩))
        | none =>
            simp only [hfind] at h ⊢
            exact .inr (.inr (.inr ⟨Nat.le_of_not_lt hascii, trivial, List.mem_singleton.mp h⟩))

/-- A text without small letters, of the first 128 characters only. -/
def IsPlain (s : List Char) : Prop :=
  ∀ c ∈ s, c.toNat < 0x80 ∧ c.isLower = false

theorem IsPlain.upper_eq {s : List Char} (h : IsPlain s) : upper s = s := by
  have hsame : ∀ c ∈ s, upperChar c = [c] := fun c hc => by
    rw [upperChar_of_ascii (h c hc).1, Char.toUpper_eq_of_not_isLower (by simp [(h c hc).2])]
  rw [upper, List.flatMap_congr hsame, List.flatMap_singleton']

/-! ## No small letters -/

theorem isLower_iff (c : Char) : c.isLower = true ↔ 97 ≤ c.toNat ∧ c.toNat ≤ 122 := by
  simp only [Char.isLower, Bool.and_eq_true, decide_eq_true_eq, ge_iff_le, UInt32.le_iff_toNat_le]
  rfl

theorem toNat_toUpper_of_isLower {c : Char} (h : c.isLower = true) :
    65 ≤ c.toUpper.toNat ∧ c.toUpper.toNat ≤ 90 := by
  have hrange := (isLower_iff c).mp h
  have hvalid : (c.toNat - 32).isValidChar := .inl (by omega)
  rw [Char.toUpper_eq_of_isLower h, Char.toNat_ofNat, if_pos hvalid]
  omega

theorem toNat_toUpper_lt {c : Char} (h : c.toNat < 0x80) : c.toUpper.toNat < 0x80 := by
  by_cases hlower : c.isLower = true
  · have hrange := toNat_toUpper_of_isLower hlower
    omega
  · rwa [Char.toUpper_eq_of_not_isLower hlower]

theorem isLower_ofNat {code : Nat} (h : ¬ (97 ≤ code ∧ code ≤ 122)) :
    (Char.ofNat code).isLower = false := by
  refine Bool.eq_false_iff.mpr fun hlower => h ?_
  have hcode := (isLower_iff _).mp hlower
  rw [Char.toNat_ofNat] at hcode
  split at hcode <;> omega

namespace CaseShift

def avoidsSmall (shift : CaseShift) : Bool :=
  122 < (shift.first : Int) + shift.distance || (shift.last : Int) + shift.distance < 97

theorem isLower_apply {shift : CaseShift} (h : shift.avoidsSmall = true) {code : Nat}
    (hcovers : shift.covers code = true) : (shift.apply code).isLower = false := by
  simp only [covers, Bool.and_eq_true, decide_eq_true_eq] at hcovers
  simp only [avoidsSmall, Bool.or_eq_true, decide_eq_true_eq] at h
  exact isLower_ofNat (by omega)

end CaseShift

theorem isLower_of_mem_upperChar {c upper : Char} (h : upper ∈ upperChar c) :
    upper.isLower = false := by
  have hexpansions : (upperExpansions.all fun expansion =>
      expansion.2.all fun code => !(Char.ofNat code).isLower) = true := by decide +kernel
  have havoid : upperShifts.all CaseShift.avoidsSmall = true := by decide +kernel
  obtain ⟨-, rfl⟩ | ⟨codes, hmem, code, hcode, rfl⟩ | ⟨shift, hshift, hcovers, rfl⟩ |
    ⟨hhigh, -, rfl⟩ := mem_upperChar_cases h
  · exact c.isLower_toUpper_eq_false
  · have hsmall := List.all_eq_true.mp (List.all_eq_true.mp hexpansions _ hmem) code hcode
    simpa using hsmall
  · exact CaseShift.isLower_apply (List.all_eq_true.mp havoid shift hshift) hcovers
  · refine Bool.eq_false_iff.mpr fun hlower => ?_
    have hrange := (isLower_iff upper).mp hlower
    omega

theorem isLower_of_mem_upper {s : List Char} {c : Char} (h : c ∈ upper s) : c.isLower = false := by
  obtain ⟨origin, -, hc⟩ := List.mem_flatMap.mp h
  exact isLower_of_mem_upperChar hc

theorem isUpper_eq_isCapital (c : Char) : c.isUpper = isCapital c := by
  rw [Bool.eq_iff_iff, isCapital_iff]
  simp only [Char.isUpper, decide_eq_true_eq, ge_iff_le, UInt32.le_iff_toNat_le]
  rfl

theorem isAlpha_of_mem_upper {s : List Char} {c : Char} (h : c ∈ upper s) :
    c.isAlpha = isCapital c := by
  rw [Char.isAlpha, isLower_of_mem_upper h, Bool.or_false, isUpper_eq_isCapital]

theorem isAlpha_iff (c : Char) :
    c.isAlpha = true ↔ (65 ≤ c.toNat ∧ c.toNat ≤ 90) ∨ 97 ≤ c.toNat ∧ c.toNat ≤ 122 := by
  rw [Char.isAlpha, isUpper_eq_isCapital, Bool.or_eq_true, isCapital_iff, isLower_iff]

end WordHunt.Text
