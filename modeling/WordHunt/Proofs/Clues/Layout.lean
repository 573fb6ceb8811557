import WordHunt.Proofs.Clues.Meaning
import WordHunt.Proofs.Text.Spacing

/-!
# The layout of clue lines

Blanks separate the parts of a clue line, and no part cares how many there are or which ones.  So
a line may be collapsed before it is read, and what a text means is settled by its lines that have
a form, in upper case, trimmed and collapsed.
-/

namespace WordHunt

open Text

namespace ClueLine

/-! ## Parts of a collapsed line -/

section Parts

variable (s : List Char)

theorem isBlank_of_isCapital {c : Char} (h : isCapital c = true) : isBlank c = false := by
  have hrange := (isCapital_iff c).mp h
  exact isBlank_of_visible (by omega) (by omega)

theorem isCapital_of_isBlank {c : Char} (h : isBlank c = true) : isCapital c = false := by
  refine Bool.eq_false_iff.mpr fun hcapital => ?_
  rw [isBlank_of_isCapital hcapital] at h
  cases h

theorem after?_collapse {word : List Char} (hword : word.any isBlank = false) :
    after? word (collapse s) = (after? word s).map collapse := by
  induction word generalizing s with
  | nil => rfl
  | cons w word ih =>
      obtain ⟨hw, hrest⟩ := Bool.or_eq_false_iff.mp hword
      have hcons (c : Char) (t : List Char) :
          after? (w :: word) (c :: t) = if w = c then after? word t else none := by
        by_cases hsame : w = c <;> simp [after?, hsame]
      cases s with
      | nil => rfl
      | cons c s =>
          cases hc : isBlank c with
          | false =>
              rw [collapse_cons hc, hcons, hcons, ih s hrest]
              split <;> rfl
          | true =>
              have hother (d : Char) (hd : isBlank d = true) : w ≠ d := by
                rintro rfl
                rw [hw] at hd
                cases hd
              rw [collapse_cons_of_isBlank hc, hcons, hcons, if_neg (hother ' ' isBlank_space),
                if_neg (hother c hc)]
              rfl

theorem afterBlanks?_collapse : afterBlanks? (collapse s) = (afterBlanks? s).map collapse := by
  cases s with
  | nil => rfl
  | cons c s =>
      cases hc : isBlank c with
      | false => simp [collapse_cons hc, afterBlanks?, hc]
      | true =>
          rw [collapse_cons_of_isBlank hc, afterBlanks?, afterBlanks?, if_pos hc,
            if_pos isBlank_space, trimStart_collapse, trimStart_trimStart, Option.map_some]

theorem letter?_collapse :
    letter? (collapse s) = (letter? s).map fun (letter, rest) => (letter, collapse rest) := by
  cases s with
  | nil => rfl
  | cons c s =>
      cases hc : isBlank c with
      | false =>
          rw [collapse_cons hc, letter?, letter?, afterBlanks?_collapse]
          split
          · simp [Function.comp_def]
          · rfl
      | true =>
          rw [collapse_cons_of_isBlank hc, letter?, letter?,
            if_neg (by simp [isCapital_of_isBlank isBlank_space]),
            if_neg (by simp [isCapital_of_isBlank hc])]
          rfl

theorem collapse_eq_or {p : Char → Bool} (hp : ∀ c, p c = true → isBlank c = false) :
    collapse s = s ∨ (collapse s).all p = false ∧ s.all p = false := by
  cases hall : s.all p with
  | true =>
      left
      exact collapse_of_visible fun c hc => hp c (List.all_eq_true.mp hall c hc)
  | false =>
      right
      have hblank (c : Char) (hc : isBlank c = true) : p c = false := by
        refine Bool.eq_false_iff.mpr fun htrue => ?_
        rw [hp c htrue] at hc
        cases hc
      refine ⟨?_, rfl⟩
      rw [all_collapse fun c hc => (hblank c hc).trans (hblank ' ' isBlank_space).symm, hall]

theorem digits?_collapse : digits? (collapse s) = digits? s := by
  rcases collapse_eq_or s fun _ => isBlank_of_isDecimalDigit with hsame | ⟨hcollapsed, hother⟩
  · rw [hsame]
  · rw [digits?, digits?, if_neg (by simp [hcollapsed]), if_neg (by simp [hother])]

theorem readNumeral_collapse (bound : Nat) :
    readNumeral bound (collapse s) = readNumeral bound s := by
  have hdigit (c : Char) (h : c.isDigit = true) : isBlank c = false :=
    isBlank_of_isDecimalDigit (by rw [isDecimalDigit, h, Bool.true_or])
  rcases collapse_eq_or s hdigit with hsame | ⟨hcollapsed, hother⟩
  · rw [hsame]
  · rw [readNumeral, readNumeral, if_neg (by simp [hcollapsed]), if_neg (by simp [hother])]

theorem fields_collapse : fields (collapse s) = (fields s).map collapse := by
  rw [fields, splitOn_collapse (by decide), fields, List.map_map, List.map_map]
  exact List.map_congr_left fun piece _ => trim_collapse piece

theorem listedPositions_collapse : listedPositions (collapse s) = listedPositions s := by
  rw [listedPositions_eq, listedPositions_eq, fields_collapse, List.filterMap_map]
  simp only [Function.comp_def, readNumeral_collapse]

def loneLetter? : List Char → Option Char
  | [c] => if isCapital c then some c else none
  | _ => none

theorem loneLetter?_cons_of_isBlank {c : Char} (hc : isBlank c = true) :
    loneLetter? (c :: s) = none := by
  cases s with
  | nil => exact if_neg (by simp [isCapital_of_isBlank hc])
  | cons d s => rfl

theorem loneLetter?_collapse : loneLetter? (collapse s) = loneLetter? s := by
  cases s with
  | nil => rfl
  | cons c s =>
      cases hc : isBlank c with
      | true =>
          rw [collapse_cons_of_isBlank hc, loneLetter?_cons_of_isBlank _ isBlank_space,
            loneLetter?_cons_of_isBlank _ hc]
      | false =>
          rw [collapse_cons hc]
          cases hs : collapse s with
          | nil => rw [collapse_eq_nil_iff.mp hs]
          | cons d rest =>
              have hne : s ≠ [] := fun hnil => by simp [hnil] at hs
              obtain ⟨e, t, rfl⟩ := List.exists_cons_of_ne_nil hne
              rfl

theorem listedLetters_collapse : listedLetters (collapse s) = listedLetters s := by
  have hlone (t : List Char) : listedLetters t = (fields t).filterMap loneLetter? := by
    rw [fields, List.filterMap_map]
    rfl
  rw [hlone, hlone, fields_collapse, List.filterMap_map]
  simp only [Function.comp_def, loneLetter?_collapse]

/-! ## Reading a collapsed line -/

theorem excluded?_collapse : excluded? (collapse s) = excluded? s := by
  have hlisted (t : List Char) : (collapse t).all isListed = t.all isListed := by
    refine all_collapse (fun c hc => ?_) t
    simp [isListed, hc, isBlank_space]
  simp (disch := decide) only [excluded?, collapse_eq_nil_iff, trimStart_collapse,
    after?_collapse, afterBlanks?_collapse, Option.getD_map, Option.bind_eq_bind, Option.bind_map,
    Function.comp_def, hlisted, listedPositions_collapse]

theorem exactForm?_collapse : exactForm? (collapse s) = exactForm? s := by
  simp (disch := decide) only [exactForm?, letter?_collapse, after?_collapse,
    afterBlanks?_collapse, digits?_collapse, Option.bind_eq_bind, Option.bind_map,
    Function.comp_def]

theorem absentForm?_collapse : absentForm? (collapse s) = absentForm? s := by
  simp (disch := decide) only [absentForm?, after?_collapse, afterBlanks?_collapse,
    Option.bind_eq_bind, Option.bind_map, Function.comp_def, collapse_eq_nil_iff,
    listedLetters_collapse]

theorem presentForm?_collapse : presentForm? (collapse s) = presentForm? s := by
  simp (disch := decide) only [presentForm?, letter?_collapse, after?_collapse,
    afterBlanks?_collapse, excluded?_collapse, Option.bind_eq_bind, Option.bind_map,
    Function.comp_def]

theorem lengthForm?_collapse : lengthForm? (collapse s) = lengthForm? s := by
  simp (disch := decide) only [lengthForm?, after?_collapse, trimStart_collapse,
    digits?_collapse, Option.bind_eq_bind, Option.bind_map, Function.comp_def]

theorem read?_collapse : read? (collapse s) = read? s := by
  rw [read?, read?, exactForm?_collapse, absentForm?_collapse, presentForm?_collapse,
    lengthForm?_collapse]

end Parts

end ClueLine

/-! ## Tidy lines -/

namespace Clues

open ClueLine

open Classical in
/-- The lines of a text, raised to upper case, trimmed and collapsed, as far as they have a form. -/
noncomputable def tidyLines (raise : List Char → List Char) (text : String) : List (List Char) :=
  ((lines text.toList).map fun line => collapse (trim (raise line))).filter HasForm

theorem tidyLines_eq (raise : List Char → List Char) (text : String) :
    tidyLines raise text =
      ((lines text.toList).map fun line => collapse (trim (raise line))).filter fun line =>
        (read? line).isSome := by
  classical
  refine List.filter_congr fun line hline => ?_
  obtain ⟨origin, -, rfl⟩ := List.mem_map.mp hline
  have hform := isSome_read?_iff (isTrimmed_collapse (isTrimmed_trim (raise origin)))
  rw [Bool.eq_iff_iff, decide_eq_true_eq, hform]

theorem clueLines_eq_tidyLines (text : String) :
    clueLines text = (tidyLines upper text).filterMap read? := by
  have hread (line : List Char) :
      read? (collapse (trim (upper line))) = read? (upper (trim line)) := by
    rw [read?_collapse, trim_upper]
  rw [tidyLines_eq, List.filterMap_filter, List.filterMap_map, clueLines]
  refine List.filterMap_congr fun line _ => ?_
  rw [Function.comp_apply, hread]
  cases read? (upper (trim line)) <;> rfl

/--
Texts whose tidy lines are the same mean the same.  So it does not matter how a line is ended, with
which blanks it begins and ends, which and how many blanks stand where one does, in which case it
is written, and what is said on lines of none of the forms.
-/
theorem ofText_eq_of_tidyLines_eq {text other : String}
    (h : tidyLines upper other = tidyLines upper text) : ofText other = ofText text := by
  rw [ofText, clueLines_eq_tidyLines, h, ← clueLines_eq_tidyLines, ← ofText]

theorem ofText_eq_of_tidyLines_eq_sample :
    let text := "O AT 3\nNO S, T E, R\nA IN WORD, NOT AT 1, 2\nLENGTH: 6\n"
    let other := "My rules:\r\n\r\n\t o\u00a0at \t3 \r\nno \u2003s,\u00a0t  e, r\r\n\r\n" ++
      "A in\tword,   not at 1,\u30002\r\n(I think)\r\nlength:\u00856"
    tidyLines upper other = tidyLines upper text ∧ ofText other = ofText text ∧
      (ofText text).absent = ['S', 'R'] ∧ (ofText text).length = 6 := by
  intro text other
  have htidy : tidyLines upper other = tidyLines upper text := by
    rw [tidyLines_eq, tidyLines_eq]
    decide +kernel
  exact ⟨htidy, ofText_eq_of_tidyLines_eq htidy, by decide +kernel, by decide +kernel⟩

/-- The small letters `a` to `z` are not all that counts: a long s is heard as a capital. -/
theorem long_s_heard_as_capital :
    tidyLines (·.map Char.toUpper) "ſ AT 3" = tidyLines (·.map Char.toUpper) "" ∧
      (ofText "ſ AT 3").exact.toList = [(2, 'S')] ∧ ofText "ſ AT 3" ≠ ofText "" := by
  rw [tidyLines_eq, tidyLines_eq]
  decide +kernel

end Clues

end WordHunt
