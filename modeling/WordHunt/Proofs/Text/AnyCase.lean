import Mathlib
import WordHunt.Text.Scan

/-!
# Words read in any case

A word is read in any case where folding the letters of a text gives the word.  Every ASCII
spelling of a word is read, and characters other than letters are read as themselves only.
-/

namespace WordHunt.Text

/-! ## Folding -/

theorem foldLetter_of_isLower {c : Char} (h : c.toLower.isLower = true) :
    foldLetter c = c.toLower := by
  unfold foldLetter
  split
  · rename_i hc
    subst hc
    exact absurd h (by decide)
  · split
    · rename_i hc
      subst hc
      exact absurd h (by decide)
    · rfl

theorem eq_of_foldLetter_eq {c other : Char} (hother : other.isLower = false)
    (h : foldLetter c = other) : c = other := by
  unfold foldLetter at h
  split at h
  · subst h
    exact absurd hother (by decide)
  · split at h
    · subst h
      exact absurd hother (by decide)
    · by_cases hupper : c.isUpper = true
      · rw [← h, Char.isLower_toLower_eq_isAlpha] at hother
        simp [Char.isAlpha, hupper] at hother
      · rwa [Char.toLower_eq_of_not_isUpper hupper] at h

theorem map_foldLetter {s word : List Char} (hword : word.all Char.isLower = true)
    (h : s.map Char.toLower = word) : s.map foldLetter = word := by
  subst h
  refine List.map_congr_left fun c hc => ?_
  exact foldLetter_of_isLower (List.all_eq_true.mp hword _ (List.mem_map_of_mem hc))

/-! ## Words at the head of a text -/

theorem afterWord?_eq_some_iff {word s rest : List Char} :
    afterWord? word s = some rest ↔ ∃ start, s = start ++ rest ∧ start.map foldLetter = word := by
  induction word generalizing s with
  | nil => simp [afterWord?]
  | cons w word ih =>
      cases s with
      | nil =>
          simp only [afterWord?, reduceCtorEq, false_iff, not_exists, not_and]
          intro start hstart
          obtain ⟨rfl, -⟩ := List.append_eq_nil_iff.mp hstart.symm
          simp
      | cons c s =>
          simp only [afterWord?]
          constructor
          · intro h
            split at h
            · rename_i hc
              obtain ⟨start, rfl, hstart⟩ := ih.mp h
              exact ⟨c :: start, rfl, by rw [List.map_cons, hc, hstart]⟩
            · contradiction
          · rintro ⟨start, hs, hstart⟩
            cases start with
            | nil => simp at hstart
            | cons first start =>
                obtain ⟨rfl, rfl⟩ := List.cons.inj hs
                obtain ⟨hc, hstart⟩ := List.cons.inj hstart
                rw [if_pos hc]
                exact ih.mpr ⟨start, rfl, hstart⟩

theorem afterWord?_append {word start : List Char} (h : start.map foldLetter = word)
    (rest : List Char) : afterWord? word (start ++ rest) = some rest :=
  afterWord?_eq_some_iff.mpr ⟨start, rfl, h⟩

theorem afterWord?_eq_none {w c : Char} (hw : w.isLower = false) (hc : c ≠ w)
    (word s : List Char) : afterWord? (w :: word) (c :: s) = none := by
  rw [afterWord?, if_neg fun h => hc (eq_of_foldLetter_eq hw h)]

/-! ## The text before a word -/

theorem beforeWordOnto?_append {w : Char} {word content s rest : List Char}
    (hw : w.isLower = false) (hcontent : w ∉ content) (hs : afterWord? (w :: word) s = some rest)
    (before : List Char) :
    beforeWordOnto? (w :: word) before (content ++ s) = some (before.reverse ++ content) := by
  induction content generalizing before with
  | nil =>
      cases s with
      | nil => simp [afterWord?] at hs
      | cons c s => simp [beforeWordOnto?, hs]
  | cons c content ih =>
      rw [List.mem_cons, not_or] at hcontent
      rw [List.cons_append, beforeWordOnto?, afterWord?_eq_none hw (Ne.symm hcontent.1)]
      simp [ih hcontent.2]

theorem beforeWord?_append {w : Char} {word content s rest : List Char}
    (hw : w.isLower = false) (hcontent : w ∉ content)
    (hs : afterWord? (w :: word) s = some rest) :
    beforeWord? (w :: word) (content ++ s) = some content :=
  beforeWordOnto?_append hw hcontent hs []

theorem beforeWordOnto?_eq_none {w : Char} (hw : w.isLower = false) {s : List Char} (hs : w ∉ s)
    (word before : List Char) : beforeWordOnto? (w :: word) before s = none := by
  induction s generalizing before with
  | nil => simp [beforeWordOnto?]
  | cons c s ih =>
      rw [List.mem_cons, not_or] at hs
      rw [beforeWordOnto?, afterWord?_eq_none hw (Ne.symm hs.1)]
      exact ih hs.2 (c :: before)

theorem beforeWord?_eq_none {w : Char} (hw : w.isLower = false) {s : List Char} (hs : w ∉ s)
    (word : List Char) : beforeWord? (w :: word) s = none :=
  beforeWordOnto?_eq_none hw hs word []

theorem map_toLower_iff {s word : List Char} (hword : word.all Char.isLower = true)
    (hs : 's' ∉ word) (hk : 'k' ∉ word) :
    s.map Char.toLower = word ↔ s.map foldLetter = word := by
  refine ⟨map_foldLetter hword, ?_⟩
  rintro rfl
  refine List.map_congr_left fun c hc => ?_
  have hfold := List.mem_map_of_mem (f := foldLetter) hc
  unfold foldLetter at hfold ⊢
  split at hfold
  · exact absurd hfold hs
  · split at hfold
    · exact absurd hfold hk
    · simp_all

end WordHunt.Text
