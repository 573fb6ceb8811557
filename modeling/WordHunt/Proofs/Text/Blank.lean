import Mathlib.Data.List.DropRight
import WordHunt.Proofs.Text.Numeral
import WordHunt.Text.Blank

/-!
# Blanks around a text

Trimming takes away blanks that are put in front of a text or behind it, and it leaves a text alone
that begins and ends otherwise.  What is visible among the first 128 characters is no blank, and
neither is a decimal digit.
-/

namespace WordHunt.Text

/-! ## What is no blank -/

theorem exists_range_of_inRanges {ranges : List CodeRange} {code : Nat}
    (h : inRanges ranges code = true) :
    ∃ range ∈ ranges, range.1 ≤ code ∧ code ≤ range.2 := by
  induction ranges with
  | nil => cases h
  | cons range ranges ih =>
      rw [inRanges] at h
      split at h
      · cases h
      · split at h
        · exact ⟨range, List.mem_cons_self, by omega, by omega⟩
        · obtain ⟨other, hother, hbounds⟩ := ih h
          exact ⟨other, List.mem_cons_of_mem range hother, hbounds⟩

theorem inRanges_eq_false_of_disjoint {first second : List CodeRange} {code : Nat}
    (hdisjoint : (first.all fun range =>
      second.all fun other => range.2 < other.1 || other.2 < range.1) = true)
    (h : inRanges first code = true) : inRanges second code = false := by
  obtain ⟨range, hrange, hlow, hhigh⟩ := exists_range_of_inRanges h
  refine Bool.eq_false_iff.mpr fun hsecond => ?_
  obtain ⟨other, hother, hlow', hhigh'⟩ := exists_range_of_inRanges hsecond
  have hapart := List.all_eq_true.mp (List.all_eq_true.mp hdisjoint range hrange) other hother
  simp only [Bool.or_eq_true, decide_eq_true_eq] at hapart
  omega

theorem isBlank_of_visible {c : Char} (hlow : 0x20 < c.toNat) (hhigh : c.toNat < 0x80) :
    isBlank c = false := by
  refine Bool.eq_false_iff.mpr fun h => ?_
  obtain ⟨range, hrange, hbounds⟩ := exists_range_of_inRanges h
  have hoff : (blankRanges.all fun range => range.2 ≤ 0x20 || 0x80 ≤ range.1) = true := by decide
  have hrange' := List.all_eq_true.mp hoff range hrange
  simp only [Bool.or_eq_true, decide_eq_true_eq] at hrange'
  omega

theorem isBlank_of_isDecimalDigit {c : Char} (h : isDecimalDigit c = true) : isBlank c = false := by
  simp only [isDecimalDigit, Bool.or_eq_true, Bool.and_eq_true] at h
  rcases h with h | ⟨-, h⟩
  · have hrange := (isDigit_iff c).mp h
    exact isBlank_of_visible (by omega) (by omega)
  · exact inRanges_eq_false_of_disjoint (by decide +kernel) h

/-! ## Trimming -/

def IsBlanks (s : List Char) : Prop :=
  s ≠ [] ∧ ∀ c ∈ s, isBlank c = true

theorem isBlanks_space : IsBlanks [' '] :=
  ⟨List.cons_ne_nil _ _, by simp; decide⟩

theorem trimStart_cons {c : Char} (hc : isBlank c = false) (s : List Char) :
    trimStart (c :: s) = c :: s :=
  List.dropWhile_cons_of_neg (by simp [hc])

theorem trimStart_append {blanks : List Char} (h : ∀ c ∈ blanks, isBlank c = true)
    (s : List Char) : trimStart (blanks ++ s) = trimStart s :=
  List.dropWhile_append_of_pos h

theorem trimStart_trimStart (s : List Char) : trimStart (trimStart s) = trimStart s :=
  List.dropWhile_idempotent _ _

theorem exists_trimStart (s : List Char) :
    ∃ blanks, (∀ c ∈ blanks, isBlank c = true) ∧ s = blanks ++ trimStart s :=
  ⟨s.takeWhile isBlank, fun _ => List.mem_takeWhile_imp,
    List.takeWhile_append_dropWhile.symm⟩

theorem trimEnd_append {blanks : List Char} (h : ∀ c ∈ blanks, isBlank c = true)
    (s : List Char) : trimEnd (s ++ blanks) = trimEnd s := by
  rw [trimEnd, List.reverse_append,
    List.dropWhile_append_of_pos fun c hc => h c (List.mem_reverse.mp hc), trimEnd]

theorem trim_append_left {blanks : List Char} (h : ∀ c ∈ blanks, isBlank c = true)
    (s : List Char) : trim (blanks ++ s) = trim s := by
  rw [trim, trimStart_append h, trim]

theorem trim_append_right {blanks : List Char} (h : ∀ c ∈ blanks, isBlank c = true)
    (s : List Char) : trim (s ++ blanks) = trim s := by
  rw [trim, trimStart, List.dropWhile_append, ← trimStart]
  split
  · next hempty =>
      rw [trim, List.isEmpty_iff.mp hempty, List.dropWhile_eq_nil_iff.mpr h]
  · rw [trimEnd_append h, trim]

def IsTrimmed (s : List Char) : Prop :=
  (∀ c ∈ s.head?, isBlank c = false) ∧ ∀ c ∈ s.getLast?, isBlank c = false

theorem IsTrimmed.trim_eq {s : List Char} (h : IsTrimmed s) : trim s = s := by
  have hstart : trimStart s = s := by
    cases s with
    | nil => rfl
    | cons c s => exact trimStart_cons (h.1 c rfl) s
  have hend : trimEnd s = s := List.rdropWhile_eq_self_iff.mpr fun hne => by
    simp [h.2 (s.getLast hne) (List.getLast?_eq_getLast_of_ne_nil hne)]
  rw [trim, hstart, hend]

theorem isBlank_head_of_trimStart_eq {s : List Char} (h : trimStart s = s) :
    ∀ c ∈ s.head?, isBlank c = false := by
  intro c hc
  have hhead := List.head?_dropWhile_not isBlank s
  rw [← trimStart, h, Option.mem_def.mp hc] at hhead
  exact hhead

theorem trim_eq_iff_isTrimmed {s : List Char} : trim s = s ↔ IsTrimmed s := by
  constructor
  · intro h
    have hstart : (trimStart s).length ≤ s.length := List.length_dropWhile_le isBlank s
    have hend : (trim s).length ≤ (trimStart s).length := by
      have hdropped := List.length_dropWhile_le isBlank (trimStart s).reverse
      rw [List.length_reverse] at hdropped
      rwa [trim, trimEnd, List.length_reverse]
    rw [h] at hend
    -- Nothing was taken away on either side.
    have hstart' : trimStart s = s :=
      (List.dropWhile_suffix isBlank).eq_of_length (Nat.le_antisymm hstart hend)
    have hend' : trimStart s.reverse = s.reverse := by
      rw [trim, hstart', trimEnd, List.reverse_eq_iff] at h
      exact h
    constructor
    · exact isBlank_head_of_trimStart_eq hstart'
    · intro c hc
      apply isBlank_head_of_trimStart_eq hend'
      rwa [List.head?_reverse]
  · exact IsTrimmed.trim_eq

theorem mem_of_mem_trim {s : List Char} {c : Char} (h : c ∈ trim s) : c ∈ s :=
  List.dropWhile_subset isBlank ((List.rdropWhile_prefix isBlank (trimStart s)).subset h)

theorem isTrimmed_trim (s : List Char) : IsTrimmed (trim s) := by
  constructor
  · intro c hc
    apply isBlank_head_of_trimStart_eq (trimStart_trimStart s)
    obtain ⟨blanks, hblanks⟩ : trim s <+: trimStart s := List.rdropWhile_prefix isBlank _
    rw [← hblanks]
    exact List.mem_head?_append_of_mem_head? hc
  · intro c hc
    apply isBlank_head_of_trimStart_eq (trimStart_trimStart (trimStart s).reverse)
    rwa [trim, trimEnd, List.getLast?_reverse] at hc

theorem exists_trim_cons {c : Char} (hc : isBlank c = false) (s : List Char) :
    ∃ rest, trim (c :: s) = c :: rest := by
  rw [trim, trimStart_cons hc, trimEnd, List.reverse_cons, List.dropWhile_append]
  split
  · exact ⟨[], by simp [hc]⟩
  · exact ⟨(s.reverse.dropWhile isBlank).reverse, by simp⟩

theorem allBlank_of_trim_ne_nil {text : String} (h : trim text.toList ≠ []) :
    allBlank text = false := by
  refine Bool.eq_false_iff.mpr fun hblank => h ?_
  have hall : ∀ c ∈ text.toList, isBlank c = true := List.all_eq_true.mp hblank
  have hnone := trim_append_left hall []
  rw [List.append_nil] at hnone
  exact hnone

end WordHunt.Text
