import WordHunt.Command.Perform
import WordHunt.Proofs.Clues.Forms
import WordHunt.Proofs.WordList

/-!
# What a filter prints

A reader takes the lines above the first empty one for the words that were let through, and reads
three numbers from the only line below it.  It reads back from what a filter prints just the entries
of the word list that fit the clues, and the numbers count them, the entries, and the others.
-/

namespace WordHunt

open Text

variable {σ : Type}

/-! ## Reading -/

structure FilterCounts where
  accepted : Nat
  total : Nat
  rejected : Nat
  deriving DecidableEq, Repr

namespace FilterCounts

def toText (counts : FilterCounts) : String :=
  numeralText counts.accepted ++ " of " ++ numeralText counts.total ++ " words match (" ++
    numeralText counts.rejected ++ " rejected)"

def read? (line : List Char) : Option FilterCounts := do
  let (accepted, rest) ← leadingNumber? line
  let rest ← ClueLine.after? [' ', 'o', 'f', ' '] rest
  let (total, rest) ← leadingNumber? rest
  let rest ← ClueLine.after?
    [' ', 'w', 'o', 'r', 'd', 's', ' ', 'm', 'a', 't', 'c', 'h', ' ', '('] rest
  let (rejected, rest) ← leadingNumber? rest
  if rest = [' ', 'r', 'e', 'j', 'e', 'c', 't', 'e', 'd', ')'] then
    some ⟨accepted, total, rejected⟩
  else none

theorem toList_toText (counts : FilterCounts) :
    counts.toText.toList =
      numeral counts.accepted ++ ([' ', 'o', 'f', ' '] ++ (numeral counts.total ++
        ([' ', 'w', 'o', 'r', 'd', 's', ' ', 'm', 'a', 't', 'c', 'h', ' ', '('] ++
          (numeral counts.rejected ++
            [' ', 'r', 'e', 'j', 'e', 'c', 't', 'e', 'd', ')'])))) := by
  simp [toText, numeralText]

theorem read?_toText (counts : FilterCounts) : read? counts.toText.toList = some counts := by
  have hnext (n : Nat) (s t : List Char) :
      leadingNumber? (numeral n ++ ((' ' :: s) ++ t)) = some (n, (' ' :: s) ++ t) :=
    leadingNumber?_numeral n (by simp)
  have hlast (n : Nat) (s : List Char) :
      leadingNumber? (numeral n ++ ' ' :: s) = some (n, ' ' :: s) :=
    leadingNumber?_numeral n (by simp)
  rw [toList_toText, read?]
  simp only [hnext, hlast, Option.bind_eq_bind, Option.bind_some, ClueLine.after?_append, if_true]

theorem isLine_toText (counts : FilterCounts) : IsLine counts.toText.toList := by
  have hnumeral (n : Nat) : ∀ c ∈ numeral n, 0x20 ≤ c.toNat := by
    intro c hc
    have hrange := (isDigit_iff c).mp (isDigit_of_mem_numeral hc)
    omega
  apply isLine_of_printed
  simp only [toList_toText, List.forall_mem_append]
  exact ⟨hnumeral _, by simp, hnumeral _, by simp, hnumeral _, by simp⟩

end FilterCounts

/-- Reads the words above the first empty line and the counts on the only line below it. -/
def readFiltered? (text : String) : Option (List String × FilterCounts) :=
  let printed := lines text.toList
  match printed.dropWhile (· ≠ []) with
  | [_, below] =>
      (FilterCounts.read? below).map ((printed.takeWhile (· ≠ [])).map String.ofList, ·)
  | _ => none

/-! ## Printing -/

section Filtered

variable (clueText wordText : String)

def letThrough : List String :=
  (wordList wordText).filter (Clues.ofText clueText).fits

def filterCounts : FilterCounts where
  accepted := (letThrough clueText wordText).length
  total := (wordList wordText).length
  rejected := ((Clues.ofText clueText).screen (wordList wordText)).rejected

theorem toList_filteredText :
    (filteredText clueText wordText).toList =
      ((letThrough clueText wordText).map String.toList).flatMap (· ++ ['\n']) ++
        '\n' :: ((filterCounts clueText wordText).toText.toList ++ ['\n']) := by
  have haccepted := (Clues.ofText clueText).accepted_wordList wordText
  rw [← letThrough] at haccepted
  simp [filteredText, haccepted, toList_joinWith_nil, FilterCounts.toText, filterCounts,
    List.flatMap_map]

theorem lines_filteredText :
    lines (filteredText clueText wordText).toList =
      (letThrough clueText wordText).map String.toList ++
        [[], (filterCounts clueText wordText).toText.toList] := by
  have hwords : ∀ line ∈ (letThrough clueText wordText).map String.toList, IsLine line := by
    intro line hline
    obtain ⟨word, hword, rfl⟩ := List.mem_map.mp hline
    exact (isEntry_of_mem_wordList (List.mem_of_mem_filter hword)).isLine
  have hnone : IsLine [] := isLine_of_printed (by simp)
  have hempty := lines_append_lineFeed hnone
    ((filterCounts clueText wordText).toText.toList ++ ['\n'])
  rw [List.nil_append] at hempty
  have hend : lines [] = [] := rfl
  rw [toList_filteredText, lines_flatMap_append hwords, hempty,
    lines_append_lineFeed (FilterCounts.isLine_toText _), hend]

theorem readFiltered?_filteredText :
    readFiltered? (filteredText clueText wordText) =
      some (letThrough clueText wordText, filterCounts clueText wordText) := by
  have hwords : ∀ line ∈ (letThrough clueText wordText).map String.toList,
      decide (line ≠ []) = true := by
    intro line hline
    obtain ⟨word, hword, rfl⟩ := List.mem_map.mp hline
    have hentry := isEntry_of_mem_wordList (List.mem_of_mem_filter hword)
    exact decide_eq_true hentry.nonempty
  rw [readFiltered?, lines_filteredText, List.dropWhile_append_of_pos hwords,
    List.takeWhile_append_of_pos hwords]
  simp [FilterCounts.read?_toText, Function.comp_def]

end Filtered

/-! ## The command -/

section Command

variable {surroundings : Surroundings} {arguments : List String} {config : Option String}
  {clueFile wordFile clueText wordText : String}

/--
A filter command whose files can be read prints the entries of the word list that fit the clues, in
their order and with repetitions, and counts them, all entries, and those it turned away.
-/
theorem filter_prints_what_fits (partner : Partner σ) (state : σ)
    (hcommand : Invocation.ofArguments? arguments =
      some (.command config (.filter clueFile wordFile)))
    (hclues : (surroundings.read clueFile).1 = .ok clueText)
    (hwords : ((surroundings.read clueFile).2.read wordFile).1 = .ok wordText) :
    ((perform surroundings arguments).hold partner state).value.code = 0 ∧
      ∃ words counts,
        readFiltered? ((perform surroundings arguments).hold partner state).value.output =
          some (words, counts) ∧
        words = (wordList wordText).filter
          (fun word => (Clues.ofText clueText).violation? word = none) ∧
        (∀ word ∈ words, (Clues.ofText clueText).violation? word = none) ∧
        counts.accepted = words.length ∧ counts.total = (wordList wordText).length ∧
        counts.accepted + counts.rejected = counts.total := by
  have hperform : ((perform surroundings arguments).hold partner state).value =
      { code := 0, output := filteredText clueText wordText } := by
    have hprinted : Command.filterFiles surroundings clueFile wordFile =
        .ok (filteredText clueText wordText) := by
      simp only [Command.filterFiles, hclues, hwords]
      rfl
    rw [hold_perform_value hcommand, Command.perform, hprinted]
    rfl
  have hfits : letThrough clueText wordText =
      (wordList wordText).filter
        (fun word => (Clues.ofText clueText).violation? word = none) := by
    refine List.filter_congr fun word _ => ?_
    rw [Clues.fits]
    cases (Clues.ofText clueText).violation? word <;> rfl
  have htotal := (Clues.ofText clueText).length_accepted_add_rejected (wordList wordText)
  rw [(Clues.ofText clueText).accepted_wordList] at htotal
  rw [hperform]
  refine ⟨rfl, _, _, readFiltered?_filteredText clueText wordText, hfits, ?_, rfl, rfl, htotal⟩
  intro word hword
  rw [hfits] at hword
  exact of_decide_eq_true (List.mem_filter.mp hword).2

end Command

-- The long s of the third entry has become an S before the word is screened.
theorem filter_prints_what_fits_sample :
    let clueText := "o at 3\nno s, t"
    let wordText := "cloak\r\n  brook\n\nſhoon\ncloak\nO"
    let surroundings : Surroundings :=
      { file := fun path => .ok (if path = "clues" then clueText else wordText).toUTF8
        input := .empty
        environment := [] }
    let arguments := ["filter", "--words", "words", "--rules", "clues"]
    let partner := Partner.script fun _ => { outcome := .timedOut }
    let ending := ((perform surroundings arguments).hold partner []).value
    Invocation.ofArguments? arguments = some (.command none (.filter "clues" "words")) ∧
      (surroundings.read "clues").1 = .ok clueText ∧
      ((surroundings.read "clues").2.read "words").1 = .ok wordText ∧
      ending.code = 0 ∧
      ∃ counts, readFiltered? ending.output = some (["CLOAK", "BROOK", "CLOAK"], counts) ∧
        counts.accepted = 3 ∧ counts.accepted + counts.rejected = 5 := by
  intro clueText wordText surroundings arguments partner ending
  have hcommand : Invocation.ofArguments? arguments =
      some (.command none (.filter "clues" "words")) := by
    decide +kernel
  have hclues : (surroundings.read "clues").1 = .ok clueText := by decide +kernel
  have hwords : ((surroundings.read "clues").2.read "words").1 = .ok wordText := by decide +kernel
  have hfitting : (wordList wordText).filter
      (fun word => (Clues.ofText clueText).violation? word = none) =
        ["CLOAK", "BROOK", "CLOAK"] := by
    decide +kernel
  have hlength : (wordList wordText).length = 5 := by decide +kernel
  obtain ⟨hcode, words, counts, hread, hexactly, -, haccepted, htotal, hsum⟩ :=
    filter_prints_what_fits partner [] hcommand hclues hwords
  rw [hexactly, hfitting] at hread haccepted
  rw [htotal, hlength] at hsum
  exact ⟨hcommand, hclues, hwords, hcode, counts, hread, haccepted, hsum⟩

end WordHunt
