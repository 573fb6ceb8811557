import WordHunt.Page.Basic
import WordHunt.Proofs.Page.Markup
import WordHunt.Proofs.Page.Words
import WordHunt.Proofs.Text.Numeral

/-!
# Reading back a page of words

A sheet is a page as a catalogue writes it: words of capitals, the third letter of each
emphasised, and possibly a link to the next page.  Reading a sheet gives back its words and the
number in its link.
-/

namespace WordHunt.Page

open Text

/-! ## Writing -/

def opening : List (List Char) :=
  [['h', 't', 'm', 'l'], ['b', 'o', 'd', 'y'],
   ['d', 'i', 'v', ' ', 'c', 'l', 'a', 's', 's', '=', '"', 'l', 'i', 's', 't', '"']]

def listEnd : List (List Char) :=
  [['/', 'd', 'i', 'v']]

def closing : List (List Char) :=
  [['/', 'b', 'o', 'd', 'y'], ['/', 'h', 't', 'm', 'l']]

def tags (names : List (List Char)) : List Char :=
  names.flatMap fun name => '<' :: (name ++ ['>'])

/-- A word with its third letter emphasised, and a space. -/
def markedWord (word : String) : List Char :=
  word.toList.take 2 ++ ['<', 'b', '>'] ++ (word.toList.drop 2).take 1 ++ ['<', '/', 'b', '>'] ++
    word.toList.drop 3 ++ [' ']

def addressStart : List Char :=
  [' ', 'h', 'r', 'e', 'f', '=', '"'] ++
    ['/', '5', 'l', 'e', 't', 't', 'e', 'r', 'w', 'o', 'r', 'd', 's', 'p', 'a', 'g', 'e']

def addressEnd : List Char :=
  ['.', 'h', 't', 'm', '"']

def pageAddress (page : Nat) : List Char :=
  addressStart ++ (numeral page ++ addressEnd)

def nextText : List Char :=
  ['N', 'e', 'x', 't', ' ', 'p', 'a', 'g', 'e']

def nextLink : Option Nat → List Char
  | none => []
  | some next =>
      ['<', 'a'] ++ pageAddress next ++ '>' :: nextText ++ ['<', '/', 'a', '>']

def framed (content : List Char) (next : Option Nat) : List Char :=
  tags opening ++ (content ++ (tags listEnd ++ (nextLink next ++ tags closing)))

def sheet (words : List String) (next : Option Nat) : String :=
  String.ofList (framed (words.flatMap markedWord) next)

/-- The pages of a catalogue from a number on, each linked to the next and the last one to none. -/
def sheets : (number : Nat) → List (List String) → List String
  | _, [] => []
  | _, [words] => [sheet words none]
  | number, words :: following :: pages =>
      sheet words (some (number + 1)) :: sheets (number + 1) (following :: pages)

example : sheets 1 [["CRANE", "CHAIR"], []] =
    ["<html><body><div class=\"list\">CR<b>A</b>NE CH<b>A</b>IR </div>" ++
        "<a href=\"/5letterwordspage2.htm\">Next page</a></body></html>",
      "<html><body><div class=\"list\"></div></body></html>"] := by
  decide +kernel

/-! ## Markup that is passed over -/

def frame : List (List Char) :=
  opening ++ listEnd ++ closing

theorem mem_frame {name : List Char} (h : name ∈ frame) :
    name = ['h', 't', 'm', 'l'] ∨ name = ['b', 'o', 'd', 'y'] ∨
      name = ['d', 'i', 'v', ' ', 'c', 'l', 'a', 's', 's', '=', '"', 'l', 'i', 's', 't', '"'] ∨
      name = ['/', 'd', 'i', 'v'] ∨ name = ['/', 'b', 'o', 'd', 'y'] ∨
      name = ['/', 'h', 't', 'm', 'l'] := by
  simpa [frame, opening, listEnd, closing] using h

structure IgnoresFrame {α : Type} (find : Finder α) : Prop where
  startsWith : StartsWith '<' find
  frame : ∀ name ∈ frame, ∀ s, find ('<' :: (name ++ '>' :: s)) = none

theorem ignoresFrame_emphasisTag : IgnoresFrame emphasisTag where
  startsWith := startsWith_emphasisTag
  frame name hname s := by
    rcases mem_frame hname with rfl | rfl | rfl | rfl | rfl | rfl <;> rfl

theorem ignoresFrame_invalidSpan : IgnoresFrame invalidSpan where
  startsWith := startsWith_invalidSpan
  frame name hname s := by
    rcases mem_frame hname with rfl | rfl | rfl | rfl | rfl | rfl <;> rfl

theorem ignoresFrame_anchor : IgnoresFrame anchor where
  startsWith := startsWith_anchor
  frame name hname s := by
    rcases mem_frame hname with rfl | rfl | rfl | rfl | rfl | rfl <;> rfl

theorem IgnoresFrame.passes_tags {α : Type} {find : Finder α} (h : IgnoresFrame find)
    {names : List (List Char)} (hnames : names ⊆ Page.frame) (t : List Char) :
    Passes find (tags names) t := by
  have hplain : ∀ name ∈ Page.frame, '<' ∉ name := by decide
  induction names with
  | nil => trivial
  | cons name names ih =>
      obtain ⟨hname, hnames⟩ := List.cons_subset.mp hnames
      rw [tags, List.flatMap_cons, ← tags, passes_append]
      refine ⟨h.startsWith.passes_cons (by simpa using hplain name hname) ?_, ih hnames⟩
      simpa using h.frame name hname _

theorem not_mem_of_isCapitals {s : List Char} (hs : IsCapitals s) : '<' ∉ s :=
  fun hmem => absurd (hs _ hmem) (by decide)

theorem not_mem_pageAddress (page : Nat) {c : Char} (hstart : c ∉ addressStart)
    (hdigit : c.isDigit = false) (hend : c ∉ addressEnd) : c ∉ pageAddress page := by
  have hnumeral : c ∉ numeral page := fun hmem => by
    simp [isDigit_of_mem_numeral hmem] at hdigit
  simp [pageAddress, hstart, hnumeral, hend]

theorem any_isCapital_pageAddress (page : Nat) : (pageAddress page).any isCapital = false := by
  have hnumeral : (numeral page).any isCapital = false := by
    rw [List.any_eq_false]
    intro c hc hcapital
    have hcode : c.toNat ≤ 57 := (Char.isDigit_iff_toNat.mp (isDigit_of_mem_numeral hc)).2
    have hlow := ((isCapital_iff c).mp hcapital).1
    omega
  rw [pageAddress, List.any_append, List.any_append, hnumeral]
  rfl

theorem IgnoresFrame.passes_nextLink {α : Type} {find : Finder α} (h : IgnoresFrame find)
    (hopen : ∀ s, find ('<' :: 'a' :: ' ' :: s) = none)
    (hclose : ∀ s, find ('<' :: '/' :: 'a' :: s) = none) (next : Option Nat) (t : List Char) :
    Passes find (nextLink next) t := by
  cases next with
  | none => trivial
  | some next =>
      have haddress : '<' ∉ pageAddress next :=
        not_mem_pageAddress next (by decide) (by decide) (by decide)
      have hplain : '<' ∉ 'a' :: (pageAddress next ++ '>' :: nextText) := by
        simp [haddress, nextText]
      have hsplit : nextLink (some next) =
          '<' :: 'a' :: (pageAddress next ++ '>' :: nextText) ++ '<' :: ['/', 'a', '>'] := by
        simp [nextLink]
      rw [hsplit, passes_append]
      exact ⟨h.startsWith.passes_cons hplain (hopen _),
        h.startsWith.passes_cons (by decide) (hclose _)⟩

/-! ## Reading the words -/

theorem withoutEmphasis_markedWord {word : String} (hword : IsCapitals word.toList)
    (t : List Char) :
    withoutEmphasis (markedWord word ++ t) = word.toList ++ ' ' :: withoutEmphasis t := by
  have hplain := not_mem_of_isCapitals hword
  have hpasses {s : List Char} (hs : s ⊆ word.toList) (t : List Char) : Passes emphasisTag s t :=
    ignoresFrame_emphasisTag.startsWith.passes (fun hmem => hplain (hs hmem)) t
  have hspace : Passes emphasisTag [' '] t := ⟨rfl, trivial⟩
  have hopen (s : List Char) : emphasisTag (['<', 'b', '>'] ++ s) = some ((), 3) := rfl
  have hclose (s : List Char) : emphasisTag (['<', '/', 'b', '>'] ++ s) = some ((), 4) := rfl
  have hfirst := hpasses (List.take_subset 2 word.toList)
  have hthird := hpasses (List.Subset.trans (List.take_subset 1 _) (List.drop_subset 2 word.toList))
  have hlast := hpasses (List.drop_subset 3 word.toList)
  calc withoutEmphasis (markedWord word ++ t)
      = word.toList.take 2 ++ withoutEmphasis (['<', 'b', '>'] ++ ((word.toList.drop 2).take 1 ++
          (['<', '/', 'b', '>'] ++ (word.toList.drop 3 ++ ([' '] ++ t))))) := by
        simp only [markedWord, List.append_assoc]
        exact replaceFinds_append_of_passes _ (hfirst _)
    _ = word.toList.take 2 ++ ((word.toList.drop 2).take 1 ++
          withoutEmphasis (['<', '/', 'b', '>'] ++ (word.toList.drop 3 ++ ([' '] ++ t)))) := by
        rw [withoutEmphasis, replaceFinds_append_of_some _ (by decide) (hopen _),
          List.nil_append, replaceFinds_append_of_passes _ (hthird _), ← withoutEmphasis]
    _ = word.toList.take 2 ++ ((word.toList.drop 2).take 1 ++
          (word.toList.drop 3 ++ ' ' :: withoutEmphasis t)) := by
        rw [withoutEmphasis, replaceFinds_append_of_some _ (by decide) (hclose _),
          List.nil_append, replaceFinds_append_of_passes _ (hlast _),
          replaceFinds_append_of_passes _ hspace, ← withoutEmphasis, List.singleton_append]
    _ = word.toList ++ ' ' :: withoutEmphasis t := by
        rw [← List.append_assoc, ← List.append_assoc, List.append_assoc (word.toList.take 2),
          ← List.drop_drop (i := 1) (j := 2), List.take_append_drop, List.take_append_drop]

def listing (words : List String) : List Char :=
  words.flatMap fun word => word.toList ++ [' ']

variable {words : List String}

theorem withoutEmphasis_words (hwords : ∀ word ∈ words, IsCapitals word.toList)
    (t : List Char) :
    withoutEmphasis (words.flatMap markedWord ++ t) = listing words ++ withoutEmphasis t := by
  induction words with
  | nil => rfl
  | cons word words ih =>
      obtain ⟨hword, hwords⟩ := List.forall_mem_cons.mp hwords
      rw [List.flatMap_cons, List.append_assoc, withoutEmphasis_markedWord hword, ih hwords]
      simp [listing]

theorem not_mem_listing (hwords : ∀ word ∈ words, IsCapitals word.toList) :
    '<' ∉ listing words := by
  simp only [listing, List.mem_flatMap, List.mem_append, not_exists, not_and, not_or]
  exact fun word hword => ⟨not_mem_of_isCapitals (hwords word hword), by decide⟩

theorem IgnoresFrame.replaceFinds_framed {α : Type} {find : Finder α} (h : IgnoresFrame find)
    (hopen : ∀ s, find ('<' :: 'a' :: ' ' :: s) = none)
    (hclose : ∀ s, find ('<' :: '/' :: 'a' :: s) = none) (replacement : α → List Char)
    {content replaced : List Char}
    (hcontent : ∀ t, replaceFinds find replacement (content ++ t) =
      replaced ++ replaceFinds find replacement t) (next : Option Nat) :
    replaceFinds find replacement (framed content next) = framed replaced next := by
  have htags {names : List (List Char)} (hnames : names ⊆ Page.frame) (t : List Char) :
      replaceFinds find replacement (tags names ++ t) =
        tags names ++ replaceFinds find replacement t :=
    replaceFinds_append_of_passes _ (h.passes_tags hnames t)
  have hlink (t : List Char) :
      replaceFinds find replacement (nextLink next ++ t) =
        nextLink next ++ replaceFinds find replacement t :=
    replaceFinds_append_of_passes _ (h.passes_nextLink hopen hclose next t)
  rw [framed, htags (by decide), hcontent, htags (by decide), hlink,
    ← (tags closing).append_nil, htags (by decide), replaceFinds_nil, List.append_nil, framed]

theorem withoutInvalid_withoutEmphasis_sheet (hwords : ∀ word ∈ words, IsCapitals word.toList)
    (next : Option Nat) :
    withoutInvalid (withoutEmphasis (sheet words next).toList) = framed (listing words) next := by
  have hemphasis : withoutEmphasis (framed (words.flatMap markedWord) next) =
      framed (listing words) next :=
    ignoresFrame_emphasisTag.replaceFinds_framed (fun _ => rfl) (fun _ => rfl) _
      (withoutEmphasis_words hwords) next
  have hinvalid : withoutInvalid (framed (listing words) next) = framed (listing words) next :=
    ignoresFrame_invalidSpan.replaceFinds_framed (fun _ => rfl) (fun _ => rfl) _
      (fun t => replaceFinds_append_of_passes _
        (ignoresFrame_invalidSpan.startsWith.passes (not_mem_listing hwords) t)) next
  rw [sheet, String.toList_ofList, hemphasis, hinvalid]

theorem capitalRuns_listing (hwords : ∀ word ∈ words, IsCapitals word.toList) (t : List Char) :
    capitalRuns (listing words ++ t) =
      (words.map String.toList).filter (· ≠ []) ++ capitalRuns t := by
  induction words with
  | nil => rfl
  | cons word words ih =>
      obtain ⟨hword, hwords⟩ := List.forall_mem_cons.mp hwords
      have hspace : listing (word :: words) ++ t = word.toList ++ ' ' :: (listing words ++ t) := by
        simp [listing]
      rw [hspace, capitalRuns_append_cons _ _ (by decide), ih hwords, List.map_cons,
        List.filter_cons]
      by_cases hempty : word.toList = []
      · simp [hempty, capitalRuns]
      · simp [hempty, capitalRuns_of_isCapitals hword hempty]

theorem capitalRuns_framed (content : List Char) (next : Option Nat)
    {runs : List (List Char)}
    (hcontent : ∀ t, capitalRuns (content ++ t) = runs ++ capitalRuns t) :
    capitalRuns (framed content next) = runs ++ (next.map fun _ => ['N']).toList := by
  have htags {names : List (List Char)} (hnames : (tags names).any isCapital = false)
      (t : List Char) : capitalRuns (tags names ++ t) = capitalRuns t :=
    capitalRuns_append_of_not_capital hnames t
  have hlink (t : List Char) : capitalRuns (nextLink next ++ t) =
      (next.map fun _ => ['N']).toList ++ capitalRuns t := by
    cases next with
    | none => rfl
    | some next =>
        have hsplit : nextLink (some next) ++ t =
            ['<', 'a'] ++ (pageAddress next ++ (['>'] ++ (['N'] ++ 'e' ::
              (['x', 't', ' ', 'p', 'a', 'g', 'e', '<', '/', 'a', '>'] ++ t)))) := by
          simp [nextLink, nextText]
        rw [hsplit, capitalRuns_append_of_not_capital (by decide),
          capitalRuns_append_of_not_capital (any_isCapital_pageAddress next),
          capitalRuns_append_of_not_capital (by decide),
          capitalRuns_append_cons _ _ (by decide),
          capitalRuns_append_of_not_capital (by decide)]
        rfl
  rw [framed, htags (by decide), hcontent, htags (by decide), hlink,
    ← (tags closing).append_nil, htags (by decide)]
  simp [capitalRuns]

theorem wordsIn_sheet {length : Nat} (hlength : 2 ≤ length)
    (hwords : ∀ word ∈ words, IsCapitals word.toList) (next : Option Nat) :
    wordsIn length (sheet words next) = words.filter (·.length = length) := by
  rw [wordsIn, withoutInvalid_withoutEmphasis_sheet hwords,
    capitalRuns_framed _ next (capitalRuns_listing hwords), List.filter_append, List.filter_filter]
  -- The run in the text of the link is too short, and so is the one that an empty word would be.
  have hlink : ((next.map fun _ => ['N']).toList).filter (·.length = length) = [] := by
    cases next with
    | none => rfl
    | some next =>
        have hne : ¬ 1 = length := by omega
        simp [hne]
  have hnonempty (word : List Char) :
      (decide (word.length = length) && decide (word ≠ [])) = decide (word.length = length) := by
    cases word with
    | nil =>
        have hne : ¬ 0 = length := by omega
        simp [hne]
    | cons c word => simp
  simp only [hlink, hnonempty, List.append_nil, List.filter_map, List.map_map, Function.comp_def,
    String.ofList_toList, String.length_toList, List.map_id']

/-! ## Reading the link -/

theorem passes_markedWord {word : String} (hword : IsCapitals word.toList) (t : List Char) :
    Passes anchor (markedWord word) t := by
  have hplain := not_mem_of_isCapitals hword
  have hstart := ignoresFrame_anchor.startsWith
  have hthird : '<' ∉ 'b' :: '>' :: (word.toList.drop 2).take 1 := by
    simp only [List.mem_cons, not_or]
    exact ⟨by decide, by decide, fun hmem =>
      hplain (List.drop_subset 2 _ (List.take_subset 1 _ hmem))⟩
  have hlast : '<' ∉ '/' :: 'b' :: '>' :: (word.toList.drop 3 ++ [' ']) := by
    simp only [List.mem_cons, List.mem_append, List.not_mem_nil, or_false, not_or]
    exact ⟨by decide, by decide, by decide, fun hmem => hplain (List.drop_subset 3 _ hmem),
      by decide⟩
  have hsplit : markedWord word =
      word.toList.take 2 ++ ('<' :: 'b' :: '>' :: (word.toList.drop 2).take 1 ++
        '<' :: '/' :: 'b' :: '>' :: (word.toList.drop 3 ++ [' '])) := by
    simp [markedWord]
  rw [hsplit, passes_append, passes_append]
  exact ⟨hstart.passes (fun hmem => hplain (List.take_subset 2 _ hmem)) _,
    hstart.passes_cons hthird rfl, hstart.passes_cons hlast rfl⟩

theorem passes_words (hwords : ∀ word ∈ words, IsCapitals word.toList) (t : List Char) :
    Passes anchor (words.flatMap markedWord) t := by
  induction words with
  | nil => trivial
  | cons word words ih =>
      obtain ⟨hword, hwords⟩ := List.forall_mem_cons.mp hwords
      rw [List.flatMap_cons, passes_append]
      exact ⟨passes_markedWord hword _, ih hwords⟩

theorem pageDigits?_numeral (page : Nat) :
    pageDigits? (['p', 'a', 'g', 'e'] ++ (numeral page ++ addressEnd)) = some (numeral page) := by
  have hdigits : (numeral page ++ addressEnd).takeWhile isDecimalDigit = numeral page := by
    rw [List.takeWhile_append_of_pos fun c hc => isDecimalDigit_of_mem_numeral hc]
    exact List.append_nil _
  obtain ⟨digit, rest, hnumeral⟩ := List.exists_cons_of_ne_nil (numeral_ne_nil page)
  have hafter : afterWord? ['p', 'a', 'g', 'e']
      (['p', 'a', 'g', 'e'] ++ (numeral page ++ addressEnd)) =
        some (numeral page ++ addressEnd) := rfl
  rw [pageDigits?, hafter, Option.bind_some, hdigits, hnumeral]

theorem addressDigits?_pageAddress (page : Nat) :
    addressDigits? (pageAddress page) = some (numeral page) := by
  -- No page number starts in the address before its last four letters.
  have hstart : addressDigits? (pageAddress page) =
      searchValues ['h', 'r', 'e', 'f'] (fun c => isQuote c || isBlank c)
        (fun _ s => pageDigits? s) (some 's') true 0
        (['p', 'a', 'g', 'e'] ++ (numeral page ++ addressEnd)) := rfl
  rw [hstart, List.cons_append, searchValues, ← List.cons_append, pageDigits?_numeral]
  rfl

theorem anchor_nextLink (next : Nat) (t : List Char) :
    anchor (nextLink (some next) ++ t) =
      some (⟨pageAddress next, nextText⟩, (nextLink (some next)).length) := by
  have hfound := anchor_append rfl
    (not_mem_pageAddress next (by decide) (by decide) (by decide)) (by decide : '<' ∉ nextText) t
  have hlength : (nextLink (some next)).length =
      (pageAddress next).length + nextText.length + 7 := by
    simp only [nextLink, List.length_append, List.length_cons, List.length_nil]
    omega
  rw [hlength, ← hfound]
  simp [nextLink]

theorem finds_anchor_sheet (hwords : ∀ word ∈ words, IsCapitals word.toList)
    (next : Option Nat) :
    finds anchor (sheet words next).toList =
      (next.map fun page => (⟨pageAddress page, nextText⟩ : Anchor)).toList := by
  have htags {names : List (List Char)} (hnames : names ⊆ frame) (t : List Char) :
      finds anchor (tags names ++ t) = finds anchor t :=
    finds_append_of_passes (ignoresFrame_anchor.passes_tags hnames t)
  have hcontent (t : List Char) :
      finds anchor (words.flatMap markedWord ++ t) = finds anchor t :=
    finds_append_of_passes (passes_words hwords t)
  have hclosing : finds anchor (tags closing) = [] := by
    rw [← (tags closing).append_nil, htags (by decide)]
    rfl
  rw [sheet, String.toList_ofList, framed, htags (by decide), hcontent, htags (by decide)]
  cases next with
  | none => exact hclosing
  | some page =>
      rw [finds_append_of_some (by simp [nextLink]) (anchor_nextLink page _), hclosing]
      rfl

theorem nextPageIn?_sheet (hwords : ∀ word ∈ words, IsCapitals word.toList)
    {next : Option Nat} (hnext : ∀ page ∈ next, page < pageBound) :
    nextPageIn? (sheet words next) = next := by
  rw [nextPageIn?, finds_anchor_sheet hwords]
  cases next with
  | none => rfl
  | some page =>
      have hisNext : (⟨pageAddress page, nextText⟩ : Anchor).isNext = true :=
        Bool.or_eq_true_iff.mpr (.inr rfl)
      have hread := readNumeral_numeral (hnext page rfl)
      simp [Anchor.nextPage?, hisNext, addressDigits?_pageAddress, hread]

/-- A sheet is read back: its words of the length asked for, and the number in its link. -/
theorem ofBody_sheet {length : Nat} (hlength : 2 ≤ length)
    (hwords : ∀ word ∈ words, IsCapitals word.toList) {next : Option Nat}
    (hnext : ∀ page ∈ next, page < pageBound) :
    Page.ofBody length (sheet words next) = ⟨words.filter (·.length = length), next⟩ := by
  unfold Page.ofBody
  rw [wordsIn_sheet hlength hwords, nextPageIn?_sheet hwords hnext]

theorem ofBody_sheet_sample :
    (2 ≤ 5 ∧ (∀ word ∈ ["CRANE", "AT", "", "CRANES", "CRANE"], IsCapitals word.toList) ∧
        ∀ page ∈ some 4294967295, page < pageBound) ∧
      Page.ofBody 5 (sheet ["CRANE", "AT", "", "CRANES", "CRANE"] (some 4294967295)) =
        ⟨["CRANE", "CRANE"], some 4294967295⟩ := by
  have hlength : 2 ≤ 5 := by decide
  have hwords : ∀ word ∈ ["CRANE", "AT", "", "CRANES", "CRANE"], IsCapitals word.toList := by
    decide
  have hnext : ∀ page ∈ some 4294967295, page < pageBound := by simp [pageBound]
  exact ⟨⟨hlength, hwords, hnext⟩, ofBody_sheet hlength hwords hnext⟩

/-! ## Reading several pages -/

end WordHunt.Page
