import WordHunt.Catalogue.Address
import WordHunt.Proofs.Text.Capitals
import WordHunt.Proofs.Text.Numeral
import WordHunt.Proofs.Text.Replacing

/-!
# Addresses made from a template

A template is a row of plain texts and placeholders.  Values are put for one placeholder after the
other, but no value has a brace except that of the page, which comes last.  So what is put in is
never taken for a placeholder: after each replacement the text is the template with the values put
in so far.
-/

namespace WordHunt

open Text

namespace Catalogue

inductive Placeholder where
  | length
  | letter
  | ordinal
  | page
  deriving DecidableEq, Repr

/-- A part of a template; a plain text in it has no brace that could open a placeholder. -/
inductive TemplatePart where
  | plain (text : List Char) (noBrace : '{' ∉ text)
  | placeholder (which : Placeholder)

namespace Placeholder

def mark : Placeholder → List Char
  | .length => lengthMark
  | .letter => letterMark
  | .ordinal => ordinalMark
  | .page => pageMark

theorem opensWith_mark (placeholder : Placeholder) : OpensWith '{' placeholder.mark := by
  cases placeholder <;> exact ⟨_, rfl, by decide⟩

theorem passes_mark {placeholder other : Placeholder} (h : other ≠ placeholder) (t : List Char) :
    Passes (markAt? placeholder.mark) other.mark t := by
  obtain ⟨rest, hrest, hnotMem⟩ := other.opensWith_mark
  rw [hrest]
  refine placeholder.opensWith_mark.startsWith.passes_cons hnotMem ?_
  rw [← List.cons_append, ← hrest]
  cases placeholder <;> cases other <;> first | exact absurd rfl h | rfl

end Placeholder

def TemplatePart.text (value : Placeholder → List Char) : TemplatePart → List Char
  | .plain text _ => text
  | .placeholder which => value which

/-- The text of a template with a value in place of each placeholder. -/
def render (value : Placeholder → List Char) (parts : List TemplatePart) : List Char :=
  parts.flatMap (TemplatePart.text value)

/-! ## Putting values in one after the other -/

def fill (value : Placeholder → List Char) (which : Placeholder) (s : List Char) : List Char :=
  replaceText which.mark (value which) s

def filledIn (value : Placeholder → List Char) (done : List Placeholder)
    (which : Placeholder) : List Char :=
  if which ∈ done then value which else which.mark

theorem filledIn_nil (value : Placeholder → List Char) : filledIn value [] = Placeholder.mark := by
  funext which
  simp [filledIn]

theorem infix_fill (value : Placeholder → List Char) (placeholder other : Placeholder)
    (h : other ≠ placeholder) {s : List Char} (hs : other.mark <:+: s) :
    other.mark <:+: fill value placeholder s :=
  placeholder.opensWith_mark.infix_replaceText_of_passes _ other.opensWith_mark
    (Placeholder.passes_mark h) hs

section Filling

variable {value : Placeholder → List Char} (hplain : ∀ which ≠ .page, '{' ∉ value which)
  (placeholder : Placeholder) {done : List Placeholder} (hnew : placeholder ∉ done)
  (hlast : .page ∉ done)
include hplain hnew hlast

theorem fill_part (part : TemplatePart) (s : List Char) :
    fill value placeholder (part.text (filledIn value done) ++ s) =
      part.text (filledIn value (placeholder :: done)) ++ fill value placeholder s := by
  have hmark := placeholder.opensWith_mark
  cases part with
  | plain text hplain => exact replaceFinds_append_of_passes _ (hmark.startsWith.passes hplain s)
  | placeholder other =>
      by_cases hsame : other = placeholder
      · subst hsame
        simp only [TemplatePart.text, filledIn, if_neg hnew, List.mem_cons_self, if_true]
        exact hmark.replaceText_append _ s
      · -- Another placeholder has a value without braces, or it still stands.
        have hpasses : Passes (markAt? placeholder.mark) (filledIn value done other) s := by
          rw [filledIn]
          split
          next hmem => exact hmark.startsWith.passes (hplain other fun h => hlast (h ▸ hmem)) s
          next => exact Placeholder.passes_mark hsame s
        have hkept : filledIn value (placeholder :: done) other = filledIn value done other := by
          simp [filledIn, hsame]
        simp only [TemplatePart.text, hkept]
        exact replaceFinds_append_of_passes _ hpasses

/-- Before the page is filled in, one more placeholder is filled in everywhere in a template. -/
theorem fill_render (parts : List TemplatePart) :
    fill value placeholder (render (filledIn value done) parts) =
      render (filledIn value (placeholder :: done)) parts := by
  induction parts with
  | nil => rfl
  | cons part parts ih =>
      rw [render, List.flatMap_cons, ← render, fill_part hplain placeholder hnew hlast, ih]
      rfl

end Filling

/-! ## Values -/

theorem openingBrace_notMem_numeral (n : Nat) : '{' ∉ numeral n :=
  fun h => absurd (isDigit_of_mem_numeral h) (by decide)

theorem openingBrace_notMem_ordinal (position : Nat) : '{' ∉ (ordinal position).toList := by
  unfold ordinal
  split <;> simp [numeralText, openingBrace_notMem_numeral]

theorem openingBrace_ne_toLower {letter : Char} (h : isCapital letter = true) :
    '{' ≠ letter.toLower := by
  have hcapital := (isCapital_iff letter).mp h
  have hlower := toNat_toLower_of_isCapital h
  intro hbrace
  rw [← hbrace, show '{'.toNat = 123 from rfl] at hlower
  omega

def valueOf (seed : Seed) (length : Nat) (page : List Char) : Placeholder → List Char
  | .length => numeral length
  | .letter => [seed.letter.toLower]
  | .ordinal => (ordinal seed.position).toList
  | .page => page

theorem openingBrace_notMem_valueOf {seed : Seed} (hletter : isCapital seed.letter = true)
    (length : Nat) (page : List Char) {which : Placeholder} (h : which ≠ .page) :
    '{' ∉ valueOf seed length page which := by
  cases which with
  | length => exact openingBrace_notMem_numeral length
  | letter => simpa [valueOf] using openingBrace_ne_toLower hletter
  | ordinal => exact openingBrace_notMem_ordinal seed.position
  | page => exact absurd rfl h

theorem pageUrl_eq_fill (catalogue : Catalogue) (seed : Seed) (length page : Nat) :
    let fill := fill (valueOf seed length (catalogue.pagePart page))
    catalogue.pageUrl seed length page =
      String.ofList (fill .page (fill .ordinal (fill .letter (fill .length
        catalogue.urlTemplate.toList)))) := rfl

theorem pageUrl_render (parts : List TemplatePart) (suffix : String) {seed : Seed}
    (hletter : isCapital seed.letter = true) (length page : Nat) :
    let catalogue : Catalogue := ⟨String.ofList (render Placeholder.mark parts), suffix⟩
    catalogue.pageUrl seed length page =
      String.ofList (render (valueOf seed length (catalogue.pagePart page)) parts) := by
  intro catalogue
  let value := valueOf seed length (catalogue.pagePart page)
  have hplain : ∀ which ≠ .page, '{' ∉ value which := fun which =>
    openingBrace_notMem_valueOf hletter length (catalogue.pagePart page)
  have hall : filledIn value [.page, .ordinal, .letter, .length] = value := by
    funext which
    cases which <;> simp [filledIn]
  rw [pageUrl_eq_fill, String.toList_ofList, ← filledIn_nil value,
    fill_render hplain .length (by decide) (by decide),
    fill_render hplain .letter (by decide) (by decide),
    fill_render hplain .ordinal (by decide) (by decide),
    fill_render hplain .page (by decide) (by decide), hall]

/-! ## The page -/

theorem pagePart_of_isCut (catalogue : Catalogue) {pieces : List (List Char)}
    (h : IsCut pageMark pieces catalogue.pageSuffix.toList) {page : Nat} (hpage : 1 ≤ page) :
    catalogue.pagePart page = if page = 1 then [] else (numeral page).intercalate pieces := by
  have hmark : OpensWith '{' pageMark := Placeholder.page.opensWith_mark
  rw [pagePart, hmark.replaceText_of_isCut _ h]
  by_cases hfirst : page = 1
  · rw [if_pos hfirst, if_neg (by omega)]
  · rw [if_neg hfirst, if_pos (by omega)]

/--
An address is its template with all values put in at once.  The suffix of a later page is itself
put together of its pieces with the page's number between them; it may have any braces in it.
-/
theorem pageUrl_of_template (parts : List TemplatePart) (suffix : String) (seed : Seed)
    (hletter : isCapital seed.letter = true) (length page : Nat) (hpage : 1 ≤ page) :
    (∃ pieces, IsCut pageMark pieces suffix.toList) ∧
    ∀ pieces, IsCut pageMark pieces suffix.toList →
      (⟨String.ofList (render Placeholder.mark parts), suffix⟩ : Catalogue).pageUrl
          seed length page =
        String.ofList (render
          (valueOf seed length (if page = 1 then [] else (numeral page).intercalate pieces))
          parts) := by
  refine ⟨exists_isCut Placeholder.page.opensWith_mark.ne_nil _, fun pieces hcut => ?_⟩
  rw [pageUrl_render parts suffix hletter, pagePart_of_isCut _ hcut hpage]

/-- The suffix of a page may hold placeholders of other values, and they stay as they are. -/
theorem pageUrl_of_template_sample :
    let parts : List TemplatePart :=
      [.plain ['/'] (by decide), .placeholder .length, .placeholder .letter,
        .plain ['/'] (by decide), .placeholder .ordinal, .placeholder .page, .placeholder .page]
    let suffix := String.ofList (['-'] ++ pageMark ++ ['{'] ++ lengthMark)
    isCapital 'O' = true ∧ 1 ≤ 12 ∧
      IsCut pageMark [['-'], '{' :: lengthMark] suffix.toList ∧
      (⟨String.ofList (render Placeholder.mark parts), suffix⟩ : Catalogue).pageUrl ⟨'O', 2⟩ 5 12 =
        "/5o/third-12\x7b\x7blength\x7d-12\x7b\x7blength\x7d" := by
  intro parts suffix
  have hcut : IsCut pageMark [['-'], '{' :: lengthMark] suffix.toList :=
    ⟨by simp [suffix, pageMark, List.intercalate], by decide, by decide⟩
  refine ⟨by decide, by decide, hcut, ?_⟩
  rw [(pageUrl_of_template parts suffix ⟨'O', 2⟩ (by decide) 5 12 (by decide)).2 _ hcut]
  decide

end Catalogue

end WordHunt
