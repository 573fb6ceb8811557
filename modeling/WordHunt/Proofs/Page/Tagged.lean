import WordHunt.Proofs.Page.Markup
import WordHunt.Proofs.Page.Words

/-!
# Reading a text around one tag

A text with one tag in it is read by its runs of capitals.  A tag of emphasis is taken away, so that
a run may go on behind it.  Any other tag stays where it is: its brackets end the runs on either
side, and the capitals between them are runs like all others.
-/

namespace WordHunt.Page

open Text

structure TaggedText where
  before : List Char
  inside : List Char
  after : List Char
  isPlain : ∀ s ∈ [before, inside, after], '<' ∉ s ∧ '>' ∉ s

namespace TaggedText

variable (text : TaggedText)

def source : String :=
  String.ofList (text.before ++ '<' :: (text.inside ++ '>' :: text.after))

theorem isPlain_before : '<' ∉ text.before ∧ '>' ∉ text.before :=
  text.isPlain _ (by simp)

theorem isPlain_inside : '<' ∉ text.inside ∧ '>' ∉ text.inside :=
  text.isPlain _ (by simp)

theorem isPlain_after : '<' ∉ text.after ∧ '>' ∉ text.after :=
  text.isPlain _ (by simp)

end TaggedText

/-! ## Taking away the markup -/

theorem replaceFinds_of_not_mem {α : Type} {find : Finder α} (hfind : StartsWith '<' find)
    (replacement : α → List Char) {s : List Char} (hs : '<' ∉ s) :
    replaceFinds find replacement s = s := by
  simpa using replaceFinds_append_of_passes replacement (hfind.passes hs [])

theorem replaceFinds_of_none {α : Type} {find : Finder α} (hfind : StartsWith '<' find)
    (replacement : α → List Char) {s t : List Char} (hs : '<' ∉ s) (ht : '<' ∉ t)
    (hnone : find ('<' :: t) = none) :
    replaceFinds find replacement (s ++ '<' :: t) = s ++ '<' :: t := by
  have htag : Passes find ('<' :: t) [] := hfind.passes_cons ht (by simpa using hnone)
  have hpasses : Passes find (s ++ '<' :: t) [] :=
    passes_append.mpr ⟨hfind.passes hs _, htag⟩
  simpa using replaceFinds_append_of_passes replacement hpasses

theorem invalidSpan_eq_none {t : List Char} (ht : '<' ∉ t) : invalidSpan ('<' :: t) = none := by
  rw [invalidSpan]
  cases hname : afterWord? ['s', 'p', 'a', 'n'] t with
  | none => rfl
  | some afterName =>
      cases hcut : cutAt? '>' afterName with
      | none => simp [hcut]
      | some cut =>
          obtain ⟨start, rfl, -⟩ := afterWord?_eq_some_iff.mp hname
          obtain rfl := eq_append_of_cutAt? hcut
          have hrest : '<' ∉ cut.2 := by simp_all
          simp [hcut, beforeWord?_eq_none (w := '<') rfl hrest]

namespace TaggedText

variable (text : TaggedText)

theorem withoutEmphasis_of_isEmphasis (h : IsEmphasis text.inside) :
    withoutEmphasis text.source.toList = text.before ++ text.after := by
  have htag : emphasisTag (('<' :: (text.inside ++ ['>'])) ++ text.after) =
      some ((), ('<' :: (text.inside ++ ['>'])).length) := by
    simpa using emphasisTag_of_isEmphasis text.isPlain_inside.2 h text.after
  have hsource : text.source.toList =
      text.before ++ (('<' :: (text.inside ++ ['>'])) ++ text.after) := by
    simp [source]
  rw [hsource, withoutEmphasis,
    replaceFinds_append_of_passes _ (startsWith_emphasisTag.passes text.isPlain_before.1 _),
    replaceFinds_append_of_some _ (List.cons_ne_nil _ _) htag, List.nil_append,
    replaceFinds_of_not_mem startsWith_emphasisTag _ text.isPlain_after.1]

theorem open_notMem_rest : '<' ∉ text.inside ++ '>' :: text.after := by
  simp [text.isPlain_inside.1, text.isPlain_after.1]

theorem withoutEmphasis_of_not_isEmphasis (h : ¬ IsEmphasis text.inside) :
    withoutEmphasis text.source.toList = text.source.toList := by
  have hnone : emphasisTag ('<' :: (text.inside ++ '>' :: text.after)) = none := by
    rw [Option.eq_none_iff_forall_ne_some]
    exact fun _ hfound => h (isEmphasis_of_emphasisTag text.isPlain_inside.2 hfound)
  rw [source, String.toList_ofList]
  exact replaceFinds_of_none startsWith_emphasisTag _ text.isPlain_before.1 text.open_notMem_rest
    hnone

theorem withoutInvalid_source : withoutInvalid text.source.toList = text.source.toList := by
  rw [source, String.toList_ofList]
  exact replaceFinds_of_none startsWith_invalidSpan _ text.isPlain_before.1 text.open_notMem_rest
    (invalidSpan_eq_none text.open_notMem_rest)

theorem capitalRuns_source :
    capitalRuns text.source.toList =
      capitalRuns text.before ++ (capitalRuns text.inside ++ capitalRuns text.after) := by
  rw [source, String.toList_ofList, capitalRuns_append_cons _ _ (by decide),
    capitalRuns_append_cons _ _ (by decide)]

end TaggedText

/-! ## Reading the words -/

/--
Around a tag of emphasis the words are runs of the text without the tag.  Around any other tag they
are the runs before it, then those inside it, then those behind it; none goes across a bracket.
-/
theorem wordsIn_around_tag (length : Nat) (text : TaggedText) :
    (IsEmphasis text.inside → ∃ runs, Runs (text.before ++ text.after) runs ∧
      wordsIn length text.source = (runs.filter (·.length = length)).map String.ofList) ∧
    (¬ IsEmphasis text.inside → ∃ before inside after,
      Runs text.before before ∧ Runs text.inside inside ∧ Runs text.after after ∧
      wordsIn length text.source =
        ((before ++ (inside ++ after)).filter (·.length = length)).map String.ofList) := by
  constructor
  · intro hemphasis
    have hplain : '<' ∉ text.before ++ text.after := by
      simp [text.isPlain_before.1, text.isPlain_after.1]
    refine ⟨_, runs_capitalRuns _, ?_⟩
    rw [wordsIn, text.withoutEmphasis_of_isEmphasis hemphasis, withoutInvalid,
      replaceFinds_of_not_mem startsWith_invalidSpan _ hplain]
  · intro hemphasis
    refine ⟨_, _, _, runs_capitalRuns _, runs_capitalRuns _, runs_capitalRuns _, ?_⟩
    rw [wordsIn, text.withoutEmphasis_of_not_isEmphasis hemphasis, text.withoutInvalid_source,
      text.capitalRuns_source]

/-- Capitals inside a tag are read: the name of a declaration is a word. -/
theorem declaration_read_as_word :
    ¬ ∀ (length : Nat) (text : TaggedText), ∀ word ∈ wordsIn length text.source,
      (∃ runs, Runs text.before runs ∧ word.toList ∈ runs) ∨
      (∃ runs, Runs text.after runs ∧ word.toList ∈ runs) ∨
      (IsEmphasis text.inside ∧
        ∃ runs, Runs (text.before ++ text.after) runs ∧ word.toList ∈ runs) := by
  intro h
  let text : TaggedText :=
    ⟨[], ['!', 'D', 'O', 'C', 'T', 'Y', 'P', 'E', ' ', 'h', 't', 'm', 'l'], [], by decide⟩
  have hword : "DOCTYPE" ∈ wordsIn 7 text.source := by decide +kernel
  have hnone {runs : List (List Char)} (hruns : Runs [] runs) : "DOCTYPE".toList ∉ runs := by
    rw [← hruns.capitalRuns_eq]
    simp [capitalRuns]
  rcases h 7 text _ hword with ⟨runs, hruns, hmem⟩ | ⟨runs, hruns, hmem⟩ | ⟨-, runs, hruns, hmem⟩ <;>
    exact hnone hruns hmem

end WordHunt.Page
