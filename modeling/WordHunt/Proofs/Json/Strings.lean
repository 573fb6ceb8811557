import WordHunt.Json.Reader
import WordHunt.Json.Writer
import WordHunt.Proofs.Text.Scan

/-!
# Strings are read back

A text is written between quotation marks, each character by itself or by its escape.  Whatever
characters it has, the reader stops at the mark that ends it, and the units it has read stand for
the same characters.
-/

namespace WordHunt.Json

open Text

/-! ## Characters -/

def shortEscaped : List Char :=
  ['\x08', '\x0c', '\n', '\r', '\t']

/-- What a reader takes a written character for: other control characters are written by their
codes. -/
def writtenUnit (c : Char) : StringUnit :=
  if c.toNat < 0x20 ∧ c ∉ shortEscaped then .code c.toNat else .char c

theorem hexDigit?_hexDigitChar (value : Nat) :
    hexDigit? (hexDigitChar value) = some (value % 16) := by
  have htable : ∀ digit < 16, hexDigit? (Nat.digitChar digit) = some digit := by decide
  exact htable (value % 16) (Nat.mod_lt value (by decide))

section Escape

variable {c : Char}

theorem escape_of_visible (hquote : c ≠ '"') (hslash : c ≠ '\\') (hcontrol : ¬ c.toNat < 0x20) :
    escape c = [c] := by
  simp [escape, hquote, hslash, hcontrol]

theorem escape_of_control (hcontrol : c.toNat < 0x20) (hshort : c ∉ shortEscaped) :
    escape c = ['\\', 'u', '0', '0', hexDigitChar (c.toNat / 16), hexDigitChar c.toNat] := by
  have hquote : c ≠ '"' := fun h => absurd (h ▸ hcontrol) (by decide)
  have hslash : c ≠ '\\' := fun h => absurd (h ▸ hcontrol) (by decide)
  simp only [shortEscaped, List.mem_cons, List.not_mem_nil, or_false, not_or] at hshort
  simp only [escape, hquote, hslash, hcontrol, hshort, if_true, if_false]

theorem stringUnit_of_visible (hslash : c ≠ '\\') (hcontrol : ¬ c.toNat < 0x20)
    (rest : List Char) : stringUnit (c :: rest) = some (.char c, 1) := by
  rw [stringUnit, if_neg hcontrol]
  exact hslash

theorem stringUnit_of_control (hcontrol : c.toNat < 0x20) (rest : List Char) :
    stringUnit ('\\' :: 'u' :: '0' :: '0' :: hexDigitChar (c.toNat / 16) :: hexDigitChar c.toNat ::
      rest) = some (.code c.toNat, 6) := by
  have hzero : hexDigit? '0' = some 0 := by decide
  have hcode : c.toNat / 16 % 16 * 16 + c.toNat % 16 = c.toNat := by omega
  simp [stringUnit, hexCode?, hexDigit?_hexDigitChar, hzero, hcode]

end Escape

theorem stringUnit_escape (c : Char) (rest : List Char) :
    stringUnit (escape c ++ rest) = some (writtenUnit c, (escape c).length) := by
  by_cases hcontrol : c.toNat < 0x20
  · by_cases hshort : c ∈ shortEscaped
    · simp only [shortEscaped, List.mem_cons, List.not_mem_nil, or_false] at hshort
      rcases hshort with rfl | rfl | rfl | rfl | rfl <;> rfl
    · rw [escape_of_control hcontrol hshort, writtenUnit, if_pos ⟨hcontrol, hshort⟩]
      exact stringUnit_of_control hcontrol rest
  · rw [writtenUnit, if_neg fun h => hcontrol h.1]
    by_cases hquote : c = '"'
    · subst hquote
      rfl
    · by_cases hslash : c = '\\'
      · subst hslash
        rfl
      · rw [escape_of_visible hquote hslash hcontrol]
        exact stringUnit_of_visible hslash hcontrol rest

theorem exists_escape_cons (c : Char) :
    ∃ first more, escape c = first :: more ∧ first ≠ '"' := by
  by_cases hvisible : c ≠ '"' ∧ c ≠ '\\' ∧ ¬ c.toNat < 0x20
  · obtain ⟨hquote, hslash, hcontrol⟩ := hvisible
    exact ⟨c, [], escape_of_visible hquote hslash hcontrol, hquote⟩
  · -- All other characters are written behind a backslash.
    refine ⟨'\\', (escape c).tail, ?_, by decide⟩
    unfold escape
    repeat' split
    all_goals first
      | rfl
      | exact absurd ⟨‹_›, ‹_›, ‹_›⟩ hvisible

/-! ## Texts -/

theorem stringUnits?_append (done : List StringUnit) (size : Nat) (skipped s : List Char) :
    stringUnits? done size skipped.length (skipped ++ s) = stringUnits? done size 0 s := by
  induction skipped with
  | nil => rfl
  | cons c skipped ih => rw [List.length_cons, List.cons_append, stringUnits?, ih]

theorem stringUnits?_escape (done : List StringUnit) (size : Nat) (text rest : List Char) :
    stringUnits? done size 0 (text.flatMap escape ++ '"' :: rest) =
      some (done.reverse ++ text.map writtenUnit, size + (text.flatMap escape).length + 1) := by
  induction text generalizing done size with
  | nil => simp [stringUnits?]
  | cons c text ih =>
      obtain ⟨first, more, hescape, hfirst⟩ := exists_escape_cons c
      have hunit := stringUnit_escape c (text.flatMap escape ++ '"' :: rest)
      rw [hescape, List.cons_append] at hunit
      rw [List.flatMap_cons, hescape, List.append_assoc, List.cons_append, stringUnits?,
        if_neg hfirst, hunit]
      simp only [List.length_cons, Nat.add_sub_cancel, stringUnits?_append, ih]
      simp [Nat.add_assoc, Nat.add_comm, Nat.add_left_comm]

def writtenUnits (text : String) : List StringUnit :=
  text.toList.map writtenUnit

theorem token_stringChars (text : String) (rest : List Char) :
    token (stringChars text ++ rest) =
      some (.string (writtenUnits text), (stringChars text).length) := by
  have hunits := stringUnits?_escape [] 1 text.toList rest
  have hchars : stringChars text ++ rest = '"' :: (text.toList.flatMap escape ++ '"' :: rest) := by
    simp [stringChars]
  rw [hchars, token, hunits]
  simp [writtenUnits, stringChars, Nat.add_comm]

/-! ## The characters that units stand for -/

theorem charsOnto?_writtenUnit (done text : List Char) :
    charsOnto? done (text.map writtenUnit) = some (done.reverse ++ text) := by
  induction text generalizing done with
  | nil => simp [charsOnto?]
  | cons c text ih =>
      rw [List.map_cons, writtenUnit]
      split
      · next hcode =>
        -- A control character is far below the surrogates.
        have hhigh : isHighSurrogate c.toNat = false := by
          simp only [isHighSurrogate, Bool.and_eq_false_iff, decide_eq_false_iff_not]
          omega
        have hlow : isLowSurrogate c.toNat = false := by
          simp only [isLowSurrogate, Bool.and_eq_false_iff, decide_eq_false_iff_not]
          omega
        have hchar : Char.ofNat c.toNat = c := Char.ofNat_toNat c
        unfold charsOnto?
        simp [hhigh, hlow, hchar, ih]
      · simp [charsOnto?, ih]

@[simp] theorem stringText?_writtenUnits (text : String) :
    stringText? (writtenUnits text) = some text := by
  rw [stringText?, writtenUnits, charsOnto?_writtenUnit, Option.map_some, List.reverse_nil,
    List.nil_append, String.ofList_toList]

end WordHunt.Json
