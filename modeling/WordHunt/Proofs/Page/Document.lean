import WordHunt.Proofs.Page.Markup
import WordHunt.Proofs.Page.Words

/-!
# Reading a marked page

A marked page is made of text, emphasis tags and spans of an invalid class.  Its words are the runs
of the text that is left when every emphasis tag is taken away and a space stands for every span.
-/

namespace WordHunt.Page

open Text

/-! ## Marked pages -/

structure EmphasisTag where
  isClosing : Bool
  name : List Char
  attributes : List Char
  isEmphasis : name.map Char.toLower ∈ emphasisNames
  isApart : ∀ c ∈ attributes.head?, isBlank c = true
  isPlain : '<' ∉ attributes ∧ '>' ∉ attributes

def EmphasisTag.source (tag : EmphasisTag) : List Char :=
  '<' :: ((if tag.isClosing then ['/'] else []) ++ (tag.name ++ (tag.attributes ++ ['>'])))

/-- Text, and the tags of emphasis that may stand anywhere in it. -/
inductive Inline where
  | text (s : List Char) (isPlain : '<' ∉ s ∧ '>' ∉ s)
  | emphasis (tag : EmphasisTag)

namespace Inline

def source : Inline → List Char
  | .text s _ => s
  | .emphasis tag => tag.source

def shown : Inline → List Char
  | .text s _ => s
  | .emphasis _ => []

end Inline

/-- A span whose class has the name of an invalid class in it as a whole word. -/
structure InvalidSpan where
  value : List Char
  content : List Inline
  isPlain : ∀ c ∈ value, isQuote c = false ∧ c ≠ '<' ∧ c ≠ '>'
  isInvalid : ∃ before word after, value = before ++ (word ++ after) ∧
    word.map Char.toLower ∈ invalidClasses ∧
    continuesWord before.getLast? = false ∧ continuesWord after.head? = false

namespace InvalidSpan

def opening (span : InvalidSpan) : List Char :=
  ['<', 's', 'p', 'a', 'n'] ++ (classAttributes span.value ++ ['>'])

def around (span : InvalidSpan) (content : List Char) : List Char :=
  span.opening ++ (content ++ ['<', '/', 's', 'p', 'a', 'n', '>'])

end InvalidSpan

inductive Piece where
  | plain (inline : Inline)
  | invalid (span : InvalidSpan)

namespace Piece

def source : Piece → List Char
  | .plain inline => inline.source
  | .invalid span => span.around (span.content.flatMap Inline.source)

def stripped : Piece → List Char
  | .plain inline => inline.shown
  | .invalid span => span.around (span.content.flatMap Inline.shown)

/-- What a piece shows: its text, or a space in place of an invalid span. -/
def shown : Piece → List Char
  | .plain inline => inline.shown
  | .invalid _ => [' ']

end Piece

/-! ## Taking away the emphasis -/

theorem change_flatMap_append {α : Type} {change : List Char → List Char} {f g : α → List Char}
    (h : ∀ a t, change (f a ++ t) = g a ++ change t) (pieces : List α) (t : List Char) :
    change (pieces.flatMap f ++ t) = pieces.flatMap g ++ change t := by
  induction pieces with
  | nil => rfl
  | cons piece pieces ih => simp [h, ih]

theorem withoutEmphasis_append {s t : List Char} (h : Passes emphasisTag s t) :
    withoutEmphasis (s ++ t) = s ++ withoutEmphasis t :=
  replaceFinds_append_of_passes _ h

namespace EmphasisTag

variable (tag : EmphasisTag)

def inside : List Char :=
  (if tag.isClosing then ['/'] else []) ++ (tag.name ++ tag.attributes)

theorem source_append (t : List Char) : tag.source ++ t = '<' :: (tag.inside ++ '>' :: t) := by
  simp [source, inside]

theorem length_source : tag.source.length = tag.inside.length + 2 := by
  simp [source, inside, Nat.add_assoc]

theorem map_foldLetter_name : tag.name.map foldLetter ∈ emphasisNames := by
  have hsmall : (emphasisNames.all fun name => name.all Char.isLower) = true := by decide
  rw [map_foldLetter (List.all_eq_true.mp hsmall _ tag.isEmphasis) rfl]
  exact tag.isEmphasis

theorem isEmphasis_inside : IsEmphasis tag.inside := by
  refine ⟨_, tag.name, tag.attributes, rfl, ?_, tag.map_foldLetter_name, tag.isApart⟩
  cases tag.isClosing with
  | true => exact .inr rfl
  | false => exact .inl rfl

theorem close_notMem_inside : '>' ∉ tag.inside := by
  have hname := close_notMem_of_name tag.map_foldLetter_name
  have hattributes := tag.isPlain.2
  unfold inside
  cases tag.isClosing <;> simp [hname, hattributes]

theorem emphasisTag_source (t : List Char) :
    Page.emphasisTag (tag.source ++ t) = some ((), tag.source.length) := by
  rw [source_append, length_source]
  exact emphasisTag_of_isEmphasis tag.close_notMem_inside tag.isEmphasis_inside t

end EmphasisTag

theorem withoutEmphasis_inline (inline : Inline) (t : List Char) :
    withoutEmphasis (inline.source ++ t) = inline.shown ++ withoutEmphasis t := by
  cases inline with
  | text s isPlain =>
      exact withoutEmphasis_append (startsWith_emphasisTag.passes isPlain.1 t)
  | emphasis tag =>
      have hsource : tag.source ≠ [] := by simp [EmphasisTag.source]
      exact replaceFinds_append_of_some _ hsource (tag.emphasisTag_source t)

theorem not_mem_classAttributes (span : InvalidSpan) :
    '<' ∉ classAttributes span.value ∧ '>' ∉ classAttributes span.value := by
  have hopen : '<' ∉ span.value := fun hmem => (span.isPlain _ hmem).2.1 rfl
  have hclose : '>' ∉ span.value := fun hmem => (span.isPlain _ hmem).2.2 rfl
  simp [classAttributes, hopen, hclose]

theorem passes_opening (span : InvalidSpan) (t : List Char) :
    Passes emphasisTag span.opening t := by
  have hfree : '<' ∉ 's' :: 'p' :: 'a' :: 'n' :: (classAttributes span.value ++ ['>']) := by
    simp [not_mem_classAttributes span]
  exact startsWith_emphasisTag.passes_cons hfree rfl

theorem withoutEmphasis_piece (piece : Piece) (t : List Char) :
    withoutEmphasis (piece.source ++ t) = piece.stripped ++ withoutEmphasis t := by
  cases piece with
  | plain inline => exact withoutEmphasis_inline inline t
  | invalid span =>
      have hclosing : Passes emphasisTag ['<', '/', 's', 'p', 'a', 'n', '>'] t :=
        startsWith_emphasisTag.passes_cons (by decide) rfl
      simp only [Piece.source, Piece.stripped, InvalidSpan.around, List.append_assoc]
      rw [withoutEmphasis_append (passes_opening span _),
        change_flatMap_append withoutEmphasis_inline, withoutEmphasis_append hclosing]

/-! ## Taking away the spans -/

theorem not_mem_shown (inline : Inline) : '<' ∉ inline.shown := by
  cases inline with
  | text s isPlain => exact isPlain.1
  | emphasis tag => simp [Inline.shown]

theorem invalidSpan_around (span : InvalidSpan) {content : List Char} (hcontent : '<' ∉ content)
    (t : List Char) :
    invalidSpan (span.around content ++ t) = some ((), (span.around content).length) := by
  obtain ⟨before, word, after, hvalue, hword, hbefore, hafter⟩ := span.isInvalid
  have hquotes : ∀ c ∈ before, isQuote c = false := by
    intro c hc
    apply (span.isPlain c _).1
    rw [hvalue]
    exact List.mem_append_left _ hc
  have hinvalid : isInvalidClass (classAttributes span.value) = true := by
    rw [hvalue]
    exact isInvalidClass_classAttributes hword hbefore hafter hquotes
  have hfound := invalidSpan_append rfl (not_mem_classAttributes span).2 hinvalid hcontent t
  have hlength : (span.around content).length =
      (classAttributes span.value).length + content.length + 13 := by
    simp [InvalidSpan.around, InvalidSpan.opening]
    omega
  rw [hlength, ← hfound]
  simp [InvalidSpan.around, InvalidSpan.opening]

theorem withoutInvalid_piece (piece : Piece) (t : List Char) :
    withoutInvalid (piece.stripped ++ t) = piece.shown ++ withoutInvalid t := by
  cases piece with
  | plain inline =>
      exact replaceFinds_append_of_passes _ (startsWith_invalidSpan.passes (not_mem_shown inline) t)
  | invalid span =>
      have hcontent : '<' ∉ span.content.flatMap Inline.shown := by
        simp only [List.mem_flatMap, not_exists, not_and]
        exact fun inline _ => not_mem_shown inline
      have hpiece : span.around (span.content.flatMap Inline.shown) ≠ [] := by
        simp [InvalidSpan.around]
      exact replaceFinds_append_of_some _ hpiece (invalidSpan_around span hcontent t)

/-! ## Reading the words -/

theorem withoutInvalid_withoutEmphasis (document : List Piece) :
    withoutInvalid (withoutEmphasis (document.flatMap Piece.source)) =
      document.flatMap Piece.shown := by
  have hemphasis := change_flatMap_append withoutEmphasis_piece document []
  have hinvalid := change_flatMap_append withoutInvalid_piece document []
  have hempty : withoutEmphasis [] = [] ∧ withoutInvalid [] = [] := ⟨rfl, rfl⟩
  simp only [hempty, List.append_nil] at hemphasis hinvalid
  rw [hemphasis, hinvalid]

/--
The words of a marked page are the runs of its text in which every emphasis tag is left out and a
space stands for every invalid span.
-/
theorem wordsIn_document (length : Nat) (document : List Piece) :
    ∃ runs, Runs (document.flatMap Piece.shown) runs ∧
      wordsIn length (String.ofList (document.flatMap Piece.source)) =
        (runs.filter (·.length = length)).map String.ofList := by
  refine ⟨_, runs_capitalRuns _, ?_⟩
  rw [wordsIn, String.toList_ofList, withoutInvalid_withoutEmphasis]

example :
    let letter : List Inline :=
      [.emphasis ⟨false, ['B'], [' ', 'x'], by decide +kernel, by rintro c ⟨⟩; rfl, by decide⟩,
        .text ['O'] (by decide), .emphasis ⟨true, ['b'], [], by decide +kernel, by simp, by decide⟩]
    let span : InvalidSpan :=
      ⟨['a', ' ', 'r', 'd'], .text ['F', 'L'] (by decide) :: letter, by simp [isQuote],
        ['a', ' '], ['r', 'd'], [], rfl, by decide +kernel, rfl, rfl⟩
    let document := .plain (.text ['G', 'R'] (by decide)) :: letter.map Piece.plain ++
      [.invalid span, .plain (.text ['A', 'N'] (by decide))]
    document.flatMap Piece.source =
        "GR<B x>O</b><span class=\"a rd\">FL<B x>O</b></span>AN".toList ∧
      document.flatMap Piece.shown = "GRO AN".toList := by
  decide +kernel

end WordHunt.Page
