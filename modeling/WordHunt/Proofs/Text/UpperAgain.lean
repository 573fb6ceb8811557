import WordHunt.Proofs.Text.Blank
import WordHunt.Proofs.Text.UpperCase

/-!
# The upper case of an upper case

What the upper case of a character consists of is its own upper case, so a text that is put in upper
case twice is the same as after the first time.  A blank stays as it is, and no other character
becomes one or vanishes.  All this is read off the tables: no run of characters lands on a run that
moves on, on a character that expands, or on a blank.
-/

namespace WordHunt.Text

/-! ## Where a run of characters lands -/

-- Some hundred runs are compared with each other: the kernel computes `Nat.blt` at once.
def apart (range other : CodeRange) : Bool :=
  Nat.blt range.2 other.1 || Nat.blt other.2 range.1

theorem not_inside_of_apart {range other : CodeRange} (h : apart range other = true) {code : Nat}
    (hlow : range.1 ≤ code) (hhigh : code ≤ range.2) : ¬ (other.1 ≤ code ∧ code ≤ other.2) := by
  simp only [apart, Bool.or_eq_true, Nat.blt_eq] at h
  omega

namespace CaseShift

def image (shift : CaseShift) (code : Nat) : Nat :=
  ((code : Int) + shift.distance).toNat

def landing (shift : CaseShift) : CodeRange :=
  (shift.image shift.first, shift.image shift.last)

/-- Both runs take every second code point, and they never meet. -/
def alternates (shift other : CaseShift) : Bool :=
  other.step = 2 && (shift.step = 2 || shift.first = shift.last) &&
    (0 ≤ (shift.first : Int) + shift.distance) &&
    shift.image shift.first % 2 ≠ other.first % 2

def clears (shift other : CaseShift) : Bool :=
  apart shift.landing (other.first, other.last) || shift.alternates other

variable {shift other : CaseShift} {code : Nat}

theorem covers_iff :
    shift.covers code = true ↔
      shift.first ≤ code ∧ code ≤ shift.last ∧ (code - shift.first) % shift.step = 0 := by
  simp [covers, and_assoc]

theorem image_mem_landing (h : shift.covers code = true) :
    shift.landing.1 ≤ shift.image code ∧ shift.image code ≤ shift.landing.2 := by
  obtain ⟨hfirst, hlast, -⟩ := covers_iff.mp h
  simp only [landing, image]
  omega

theorem image_not_inside {range : CodeRange} (hapart : apart shift.landing range = true)
    (h : shift.covers code = true) :
    ¬ (range.1 ≤ shift.image code ∧ shift.image code ≤ range.2) := by
  obtain ⟨hlow, hhigh⟩ := image_mem_landing h
  exact not_inside_of_apart hapart hlow hhigh

theorem covers_image_of_alternates (halternates : shift.alternates other = true)
    (h : shift.covers code = true) : other.covers (shift.image code) = false := by
  refine Bool.eq_false_iff.mpr fun hother => ?_
  obtain ⟨hfirst, hlast, hstep⟩ := covers_iff.mp h
  obtain ⟨hfirst', -, hstep'⟩ := covers_iff.mp hother
  simp only [alternates, Bool.and_eq_true, Bool.or_eq_true, decide_eq_true_eq] at halternates
  obtain ⟨⟨⟨htwo, hsecond⟩, hpositive⟩, hparity⟩ := halternates
  rw [htwo] at hstep'
  have heven : (code - shift.first) % 2 = 0 := by
    rcases hsecond with hsecond | hsingle
    · rwa [hsecond] at hstep
    · omega
  simp only [image] at hfirst' hstep' hparity
  omega

theorem covers_image_of_clears (hclears : shift.clears other = true)
    (h : shift.covers code = true) : other.covers (shift.image code) = false := by
  rcases Bool.or_eq_true_iff.mp hclears with hapart | halternates
  · refine Bool.eq_false_iff.mpr fun hother => ?_
    obtain ⟨hfirst, hlast, -⟩ := covers_iff.mp hother
    exact image_not_inside hapart h ⟨hfirst, hlast⟩
  · exact covers_image_of_alternates halternates h

end CaseShift

/-! ## Characters that stay -/

theorem upperChar_eq_singleton {c : Char} (hlower : c.isLower = false)
    (hexpansions : ∀ expansion ∈ upperExpansions, expansion.1 ≠ c.toNat)
    (hshifts : ∀ shift ∈ upperShifts, shift.covers c.toNat = false) : upperChar c = [c] := by
  by_cases hascii : c.toNat < 0x80
  · rw [upperChar_of_ascii hascii, Char.toUpper_eq_of_not_isLower (by simp [hlower])]
  · have hlookup : upperExpansions.lookup c.toNat = none := by
      rw [List.lookup_eq_none_iff]
      intro expansion hexpansion
      exact bne_iff_ne.mpr (hexpansions expansion hexpansion).symm
    have hfind : upperShifts.find? (·.covers c.toNat) = none := by
      rw [List.find?_eq_none]
      intro shift hshift
      simp [hshifts shift hshift]
    rw [upperChar, if_neg hascii, hlookup]
    simp only [shiftCase, hfind]

section Shifted

variable {shift : CaseShift} (hshift : shift ∈ upperShifts) {code : Nat}
  (hcovers : shift.covers code = true)
include hshift hcovers

theorem upperChar_apply : upperChar (shift.apply code) = [shift.apply code] := by
  have hsmall : upperShifts.all CaseShift.avoidsSmall = true := by decide +kernel
  have hclears : (upperShifts.all fun shift => upperShifts.all shift.clears) = true := by
    decide +kernel
  have hexpansions : (upperShifts.all fun shift => upperExpansions.all fun expansion =>
      apart shift.landing (expansion.1, expansion.1)) = true := by
    decide +kernel
  have hlower := CaseShift.isLower_apply (List.all_eq_true.mp hsmall shift hshift) hcovers
  have happly : (shift.apply code).toNat =
      if (shift.image code).isValidChar then shift.image code else 0 :=
    Char.toNat_ofNat ..
  split at happly
  · apply upperChar_eq_singleton hlower
    · intro expansion hexpansion hsame
      have hapart := List.all_eq_true.mp (List.all_eq_true.mp hexpansions shift hshift) expansion
        hexpansion
      apply CaseShift.image_not_inside hapart hcovers
      rw [hsame, happly]
      exact ⟨Nat.le_refl _, Nat.le_refl _⟩
    · intro other hother
      have hclear := List.all_eq_true.mp (List.all_eq_true.mp hclears shift hshift) other hother
      rw [happly]
      exact CaseShift.covers_image_of_clears hclear hcovers
  · have hascii : (shift.apply code).toNat < 0x80 := by omega
    rw [upperChar_of_ascii hascii, Char.toUpper_eq_of_not_isLower (by simp [hlower])]

theorem isBlank_apply : isBlank (shift.apply code) = false := by
  have hblanks : (upperShifts.all fun shift => blankRanges.all (apart shift.landing)) = true := by
    decide +kernel
  refine Bool.eq_false_iff.mpr fun hblank => ?_
  obtain ⟨range, hrange, hinside⟩ := exists_range_of_inRanges hblank
  have hapart := List.all_eq_true.mp (List.all_eq_true.mp hblanks shift hshift) range hrange
  have happly : (shift.apply code).toNat =
      if (shift.image code).isValidChar then shift.image code else 0 :=
    Char.toNat_ofNat ..
  split at happly
  · rw [happly] at hinside
    exact CaseShift.image_not_inside hapart hcovers hinside
  · have hpositive : (blankRanges.all fun range => 0 < range.1) = true := by decide
    have hrange' := List.all_eq_true.mp hpositive range hrange
    rw [decide_eq_true_eq] at hrange'
    omega

end Shifted

/-! ## Texts -/

section Character

variable {c upper : Char} (h : upper ∈ upperChar c)
include h

theorem upperChar_of_mem_upperChar : upperChar upper = [upper] := by
  have hexpansions : (upperExpansions.all fun expansion =>
      expansion.2.all fun code => upperChar (Char.ofNat code) = [Char.ofNat code]) = true := by
    decide +kernel
  obtain ⟨hascii, rfl⟩ | ⟨codes, hmem, code, hcode, rfl⟩ | ⟨shift, hshift, hcovers, rfl⟩ |
    ⟨-, hstays, rfl⟩ := mem_upperChar_cases h
  · rw [upperChar_of_ascii (toNat_toUpper_lt hascii), Char.toUpper_toUpper_eq_toUpper]
  · have hstays := List.all_eq_true.mp (List.all_eq_true.mp hexpansions _ hmem) code hcode
    exact of_decide_eq_true hstays
  · exact upperChar_apply hshift hcovers
  · exact hstays

theorem isBlank_of_mem_upperChar (hc : isBlank c = false) : isBlank upper = false := by
  have hexpansions : (upperExpansions.all fun expansion =>
      expansion.2.all fun code => !isBlank (Char.ofNat code)) = true := by
    decide +kernel
  obtain ⟨hascii, rfl⟩ | ⟨codes, hmem, code, hcode, rfl⟩ | ⟨shift, hshift, hcovers, rfl⟩ |
    ⟨-, -, rfl⟩ := mem_upperChar_cases h
  · by_cases hlower : c.isLower = true
    · obtain ⟨hlow, hhigh⟩ := toNat_toUpper_of_isLower hlower
      exact isBlank_of_visible (by omega) (by omega)
    · rwa [Char.toUpper_eq_of_not_isLower hlower]
  · have hvisible := List.all_eq_true.mp (List.all_eq_true.mp hexpansions _ hmem) code hcode
    simpa using hvisible
  · exact isBlank_apply hshift hcovers
  · exact hc

omit h in
theorem upperChar_ne_nil (c : Char) : upperChar c ≠ [] := by
  have hexpansions : (upperExpansions.all fun expansion => expansion.2 ≠ []) = true := by
    decide +kernel
  rw [upperChar]
  split
  · exact List.cons_ne_nil _ _
  · split
    · next codes hcodes =>
        obtain ⟨before, after, hsplit, -⟩ := List.lookup_eq_some_iff.mp hcodes
        have hmem : (c.toNat, codes) ∈ upperExpansions := by simp [hsplit]
        simpa using List.all_eq_true.mp hexpansions _ hmem
    · exact List.cons_ne_nil _ _

end Character

theorem upperChar_of_isBlank {c : Char} (hc : isBlank c = true) : upperChar c = [c] := by
  have hexpansions : (upperExpansions.all fun expansion =>
      blankRanges.all (apart (expansion.1, expansion.1))) = true := by
    decide +kernel
  have hshifts : (upperShifts.all fun shift =>
      blankRanges.all (apart (shift.first, shift.last))) = true := by
    decide +kernel
  obtain ⟨range, hrange, hinside⟩ := exists_range_of_inRanges hc
  apply upperChar_eq_singleton
  · refine Bool.eq_false_iff.mpr fun hlower => ?_
    have hcode := (isLower_iff c).mp hlower
    rw [isBlank_of_visible (by omega) (by omega)] at hc
    cases hc
  · intro expansion hexpansion hsame
    have hapart := List.all_eq_true.mp (List.all_eq_true.mp hexpansions expansion hexpansion) range
      hrange
    exact not_inside_of_apart hapart (Nat.le_of_eq hsame) (Nat.le_of_eq hsame.symm) hinside
  · intro shift hshift
    refine Bool.eq_false_iff.mpr fun hcovers => ?_
    have hapart := List.all_eq_true.mp (List.all_eq_true.mp hshifts shift hshift) range hrange
    obtain ⟨hfirst, hlast, -⟩ := CaseShift.covers_iff.mp hcovers
    exact not_inside_of_apart hapart hfirst hlast hinside

theorem upper_upper (s : List Char) : upper (upper s) = upper s := by
  have hstays : ∀ c ∈ upper s, upperChar c = [c] := by
    intro c hc
    obtain ⟨origin, -, hmem⟩ := List.mem_flatMap.mp hc
    exact upperChar_of_mem_upperChar hmem
  rw [upper, List.flatMap_congr hstays, List.flatMap_singleton']

theorem upper_ne_nil {s : List Char} (h : s ≠ []) : upper s ≠ [] := by
  obtain ⟨c, s, rfl⟩ := List.exists_cons_of_ne_nil h
  simp [upper, upperChar_ne_nil]

theorem mem_of_mem_upper {s : List Char} {c : Char} (hc : isBlank c = true) (h : c ∈ upper s) :
    c ∈ s := by
  obtain ⟨origin, horigin, hmem⟩ := List.mem_flatMap.mp h
  cases hblank : isBlank origin with
  | true =>
      rw [upperChar_of_isBlank hblank] at hmem
      rwa [List.mem_singleton.mp hmem]
  | false =>
      rw [isBlank_of_mem_upperChar hmem hblank] at hc
      cases hc

theorem isTrimmed_upper {s : List Char} (h : IsTrimmed s) : IsTrimmed (upper s) := by
  constructor
  · intro c hc
    cases s with
    | nil => cases hc
    | cons first s =>
        rw [upper, List.flatMap_cons, List.head?_append_of_ne_nil _ (upperChar_ne_nil first)] at hc
        exact isBlank_of_mem_upperChar (List.mem_of_mem_head? hc) (h.1 first rfl)
  · intro c hc
    rcases List.eq_nil_or_concat s with rfl | ⟨s, last, rfl⟩
    · cases hc
    · rw [upper, List.concat_eq_append, List.flatMap_append, List.flatMap_singleton,
        List.getLast?_append_of_ne_nil _ (upperChar_ne_nil last)] at hc
      exact isBlank_of_mem_upperChar (List.mem_of_getLast? hc) (h.2 last (by simp))

end WordHunt.Text
