import WordHunt.Clues.Printer
import WordHunt.Proofs.Clues.Bounds
import WordHunt.Proofs.Clues.Meaning
import WordHunt.Proofs.Text.Lines
import WordHunt.Screening

/-!
# The canonical text is read back

Clues that were read from a text can be printed: their positions and their length have numerals, and
their letters are capitals.  Each line of the canonical text is then the line that is read from it,
and it has one of the four forms.  Only the repetitions among the letters that do not occur are
lost, and no word is judged by them.
-/

namespace WordHunt

open Text

/-! ## Lists without repetitions -/

section EraseDups

theorem eraseDups_induction {α : Type} [BEq α] {motive : List α → Prop} (nil : motive [])
    (cons : ∀ a items, motive (items.filter fun b => !b == a) → motive (a :: items))
    (items : List α) : motive items := by
  -- What is left of the tail is no part of it, so the induction is on the length.
  induction hlength : items.length using Nat.strongRecOn generalizing items with
  | ind n ih =>
      cases items with
      | nil => exact nil
      | cons a items =>
          have hshorter := List.length_filter_le (fun b => !b == a) items
          rw [List.length_cons] at hlength
          exact cons a items (ih _ (by omega) _ rfl)

theorem eraseDups_eq_nil_iff {α : Type} [BEq α] {items : List α} :
    items.eraseDups = [] ↔ items = [] := by
  cases items <;> simp [List.eraseDups_cons]

variable {α : Type} [BEq α] [LawfulBEq α]

theorem nodup_eraseDups (items : List α) : items.eraseDups.Nodup := by
  induction items using eraseDups_induction with
  | nil => simp
  | cons a items ih => simp [List.eraseDups_cons, ih]

theorem eraseDups_of_nodup {items : List α} (h : items.Nodup) : items.eraseDups = items := by
  induction items with
  | nil => rfl
  | cons a items ih =>
      obtain ⟨ha, hitems⟩ := List.nodup_cons.mp h
      have hkept : items.filter (fun b => !b == a) = items :=
        List.filter_eq_self.mpr fun b hb => by
          have hne : b ≠ a := fun heq => ha (heq ▸ hb)
          simpa using hne
      rw [List.eraseDups_cons, hkept, ih hitems]

theorem eraseDups_eraseDups (items : List α) : items.eraseDups.eraseDups = items.eraseDups :=
  eraseDups_of_nodup (nodup_eraseDups items)

theorem find?_eraseDups (p : α → Bool) (items : List α) :
    items.eraseDups.find? p = items.find? p := by
  induction items using eraseDups_induction with
  | nil => rfl
  | cons a items ih =>
      rw [List.eraseDups_cons]
      cases ha : p a with
      | true => rw [List.find?_cons_of_pos ha, List.find?_cons_of_pos ha]
      | false =>
          -- Only copies of the first item are gone, and none of them is looked for.
          have hother : ∀ b, p b = true → (!b == a) = true := fun b hb => by
            have hne : b ≠ a := fun heq => by simp [heq, ha] at hb
            simpa using hne
          rw [List.find?_cons_of_neg (by simp [ha]), List.find?_cons_of_neg (by simp [ha]), ih,
            List.find?_filter]
          congr 1
          funext b
          cases hb : p b with
          | true => simp [hother b hb]
          | false => simp

end EraseDups

/-! ## Neat lines -/

/-- A line of characters before the small letters, with no blank at its ends. -/
structure IsNeat (s : List Char) : Prop where
  printed : ∀ c ∈ s, 0x20 ≤ c.toNat ∧ c.toNat < 0x60
  trimmed : IsTrimmed s
  nonempty : s ≠ []

theorem isNeat_of_visible {s : List Char} (h : ∀ c ∈ s, 0x20 < c.toNat ∧ c.toNat < 0x60)
    (hne : s ≠ []) : IsNeat s where
  printed c hc := ⟨Nat.le_of_lt (h c hc).1, (h c hc).2⟩
  trimmed := by
    have hvisible : ∀ c ∈ s, isBlank c = false := fun c hc =>
      isBlank_of_visible (h c hc).1 (Nat.lt_trans (h c hc).2 (by decide))
    exact ⟨fun c hc => hvisible c (List.mem_of_mem_head? hc),
      fun c hc => hvisible c (List.mem_of_getLast? hc)⟩
  nonempty := hne

namespace IsNeat

variable {s t middle : List Char}

theorem join (hs : IsNeat s) (hmiddle : ∀ c ∈ middle, 0x20 ≤ c.toNat ∧ c.toNat < 0x60)
    (ht : IsNeat t) : IsNeat (s ++ middle ++ t) where
  printed c hc := by
    rcases List.mem_append.mp hc with hc | hc
    · rcases List.mem_append.mp hc with hc | hc
      · exact hs.printed c hc
      · exact hmiddle c hc
    · exact ht.printed c hc
  trimmed := by
    refine ⟨fun c hc => hs.trimmed.1 c ?_, fun c hc => ht.trimmed.2 c ?_⟩
    · rwa [List.append_assoc, List.head?_append_of_ne_nil s hs.nonempty] at hc
    · rwa [List.getLast?_append_of_ne_nil _ ht.nonempty] at hc
  nonempty := by simp [hs.nonempty]

theorem intercalate {pieces : List (List Char)} (hne : pieces ≠ [])
    (h : ∀ piece ∈ pieces, IsNeat piece)
    (hmiddle : ∀ c ∈ middle, 0x20 ≤ c.toNat ∧ c.toNat < 0x60) :
    IsNeat (middle.intercalate pieces) := by
  induction pieces with
  | nil => exact absurd rfl hne
  | cons piece pieces ih =>
      obtain ⟨hpiece, hpieces⟩ := List.forall_mem_cons.mp h
      cases pieces with
      | nil => rwa [List.intercalate_singleton]
      | cons next pieces =>
          rw [List.intercalate_cons_cons]
          exact hpiece.join hmiddle (ih (List.cons_ne_nil next pieces) hpieces)

variable (h : IsNeat s)
include h

theorem isPlain : IsPlain s := fun c hc => by
  have hcode := h.printed c hc
  refine ⟨by omega, Bool.eq_false_iff.mpr fun hlower => ?_⟩
  have hrange := (isLower_iff c).mp hlower
  omega

theorem not_mem_lineFeed : '\n' ∉ s := fun hmem => by
  have hcode := (h.printed '\n' hmem).1
  exact absurd hcode (by decide)

end IsNeat

theorem isNeat_letter {letter : Char} (h : isCapital letter = true) : IsNeat [letter] := by
  refine isNeat_of_visible (fun c hc => ?_) (List.cons_ne_nil letter [])
  have hrange := (isCapital_iff letter).mp h
  rw [List.mem_singleton.mp hc]
  omega

theorem isNeat_numeral (n : Nat) : IsNeat (numeral n) := by
  refine isNeat_of_visible (fun c hc => ?_) (numeral_ne_nil n)
  have hrange := (isDigit_iff c).mp (isDigit_of_mem_numeral hc)
  omega

attribute [ext] Clues

namespace Clues

open ClueLine

theorem cleanLines_joinWith {texts : List String} (hne : texts ≠ [])
    (h : ∀ text ∈ texts, IsNeat text.toList) :
    cleanLines (joinWith "\n" texts) = texts.map String.toList := by
  have hpieces := splitOn_joinWith hne fun text htext => (h text htext).not_mem_lineFeed
  rw [cleanLines, hpieces, List.map_map]
  refine List.map_congr_left fun text htext => ?_
  have hneat := h text htext
  rw [Function.comp_apply, hneat.trimmed.trim_eq, hneat.isPlain.upper_eq]

/-! ## Printed lines -/

theorem toList_exactLine {position : Nat} (hplace : position + 1 < wordBound) (letter : Char) :
    (exactLine position letter).toList =
      [letter] ++ [' ', 'A', 'T', ' '] ++ numeral (position + 1) := by
  simp [exactLine, placeNumber_of_lt hplace, numeralText]

theorem toList_presentLine_nil (letter : Char) :
    (presentLine letter []).toList =
      [letter] ++ [' ', 'I', 'N', ' '] ++ ['W', 'O', 'R', 'D'] := by
  simp [presentLine]

def numberList (positions : List Nat) : List Char :=
  [',', ' '].intercalate (positions.map fun position => numeral (position + 1))

def letterList (letters : List Char) : List Char :=
  [',', ' '].intercalate (letters.map fun letter => [letter])

theorem toList_presentLine {positions : List Nat} (hne : positions ≠ [])
    (hplaces : ∀ position ∈ positions, position + 1 < wordBound) (letter : Char) :
    (presentLine letter positions).toList =
      [letter] ++ ([' ', 'I', 'N', ' ', 'W', 'O', 'R', 'D'] ++
        [',', ' ', 'N', 'O', 'T', ' ', 'A', 'T', ' ']) ++ numberList positions := by
  have hnumerals : positions.map (fun position => numeral (placeNumber position)) =
      positions.map fun position => numeral (position + 1) :=
    List.map_congr_left fun position hposition => by
      rw [placeNumber_of_lt (hplaces position hposition)]
  simp [presentLine, hne, joinWith, numeralText, Function.comp_def, hnumerals, numberList]

theorem toList_absentLine (letters : List Char) :
    (absentLine letters).toList =
      ['N', 'O'] ++ [' '] ++ letterList letters := by
  simp [absentLine, joinWith, Function.comp_def, letterList]

theorem toList_lengthLine (length : Nat) :
    (lengthLine length).toList =
      ['L', 'E', 'N', 'G', 'T', 'H', ':'] ++ [' '] ++ numeral length := by
  simp [lengthLine, numeralText]

/-! ## Reading printed lines -/

theorem forall_mem_intercalate {property : Char → Prop} {separator : List Char}
    {pieces : List (List Char)} (hseparator : ∀ c ∈ separator, property c)
    (hpieces : ∀ piece ∈ pieces, ∀ c ∈ piece, property c) :
    ∀ c ∈ separator.intercalate pieces, property c := by
  induction pieces with
  | nil => simp
  | cons piece pieces ih =>
      obtain ⟨hpiece, hrest⟩ := List.forall_mem_cons.mp hpieces
      cases pieces with
      | nil => rwa [List.intercalate_singleton]
      | cons next pieces =>
          rw [List.intercalate_cons_cons]
          intro c hc
          rcases List.mem_append.mp hc with hc | hc
          · rcases List.mem_append.mp hc with hc | hc
            · exact hpiece c hc
            · exact hseparator c hc
          · exact ih hrest c hc

theorem fields_intercalate {pieces : List (List Char)} (hne : pieces ≠ [])
    (h : ∀ piece ∈ pieces, IsNeat piece ∧ ',' ∉ piece) :
    fields ([',', ' '].intercalate pieces) = pieces := by
  induction pieces with
  | nil => exact absurd rfl hne
  | cons piece pieces ih =>
      obtain ⟨⟨hneat, hcomma⟩, hpieces⟩ := List.forall_mem_cons.mp h
      cases pieces with
      | nil =>
          rw [List.intercalate_singleton, fields, List.splitOn_eq_singleton hcomma,
            List.map_singleton, hneat.trimmed.trim_eq]
      | cons next pieces =>
          have hrest := ih (List.cons_ne_nil next pieces) hpieces
          rw [List.intercalate_cons_cons, List.append_assoc, List.cons_append, List.cons_append,
            List.nil_append, fields, List.splitOn_append_cons_self_of_not_mem hcomma, List.map_cons,
            ← fields, hneat.trimmed.trim_eq, fields_cons (by decide), hrest]

section NumberList

variable {positions : List Nat} (hne : positions ≠ [])
include hne

theorem isNeat_numberList : IsNeat (numberList positions) := by
  refine IsNeat.intercalate (by simpa using hne) (fun piece hpiece => ?_) (by simp)
  obtain ⟨position, -, rfl⟩ := List.mem_map.mp hpiece
  exact isNeat_numeral (position + 1)

theorem fields_numberList :
    fields (numberList positions) = positions.map fun position => numeral (position + 1) := by
  refine fields_intercalate (by simpa using hne) fun piece hpiece => ?_
  obtain ⟨position, -, rfl⟩ := List.mem_map.mp hpiece
  refine ⟨isNeat_numeral (position + 1), fun hcomma => ?_⟩
  exact absurd (isDigit_of_mem_numeral hcomma) (by decide)

theorem listedPositions_numberList (hplaces : ∀ position ∈ positions, position + 1 < wordBound) :
    listedPositions (numberList positions) = positions := by
  have hvalues : (positions.map fun position => numeral (position + 1)).filterMap
      (readNumeral wordBound) = positions.map (· + 1) := by
    rw [List.filterMap_map, ← List.filterMap_eq_map]
    exact List.filterMap_congr fun position hposition =>
      readNumeral_numeral (hplaces position hposition)
  rw [listedPositions_eq, fields_numberList hne, hvalues]
  simp [List.filter_map, Function.comp_def]

omit hne in
theorem isListed_of_mem_numberList : ∀ c ∈ numberList positions, isListed c = true := by
  refine forall_mem_intercalate (by simp; decide) fun piece hpiece c hc => ?_
  obtain ⟨position, -, rfl⟩ := List.mem_map.mp hpiece
  rw [isListed, isDecimalDigit_of_mem_numeral hc]
  rfl

end NumberList

section LetterList

variable {letters : List Char} (hletters : IsCapitals letters) (hne : letters ≠ [])
include hletters hne

theorem isNeat_letterList : IsNeat (letterList letters) := by
  refine IsNeat.intercalate (by simpa using hne) (fun piece hpiece => ?_) (by simp)
  obtain ⟨letter, hletter, rfl⟩ := List.mem_map.mp hpiece
  exact isNeat_letter (hletters letter hletter)

theorem listedLetters_letterList : listedLetters (letterList letters) = letters := by
  have hfields : fields (letterList letters) = letters.map fun letter => [letter] := by
    refine fields_intercalate (by simpa using hne) fun piece hpiece => ?_
    obtain ⟨letter, hletter, rfl⟩ := List.mem_map.mp hpiece
    have hcapital := hletters letter hletter
    refine ⟨isNeat_letter hcapital, fun hcomma => ?_⟩
    rw [← List.mem_singleton.mp hcomma] at hcapital
    exact absurd hcapital (by decide)
  have hsingle : ∀ piece ∈ letters.map fun letter => [letter],
      decide (piece.length = 1) = true := by
    simp
  rw [listedLetters_eq, hfields, List.filter_eq_self.mpr hsingle, ← List.flatMap_def,
    List.flatMap_singleton', List.filter_eq_self.mpr hletters]

end LetterList

def Reads (text : String) (clue : ClueLine) : Prop :=
  IsNeat text.toList ∧ read? text.toList = some clue

theorem isNeat_of_reads {texts : List String} {clues : List ClueLine}
    (h : List.Forall₂ Reads texts clues) : ∀ text ∈ texts, IsNeat text.toList := by
  induction h with
  | nil => simp
  | cons hread _ ih => exact List.forall_mem_cons.mpr ⟨hread.1, ih⟩

theorem clueLines_joinWith {texts : List String} {clues : List ClueLine} (hne : texts ≠ [])
    (h : List.Forall₂ Reads texts clues) : clueLines (joinWith "\n" texts) = clues := by
  rw [clueLines_eq, cleanLines_joinWith hne (isNeat_of_reads h), List.filterMap_map]
  clear hne
  induction h with
  | nil => rfl
  | @cons text clue texts clues hread _ ih =>
      have hfirst : (read? ∘ String.toList) text = some clue := hread.2
      rw [List.filterMap_cons_some hfirst, ih]

theorem reads_exactLine {letter : Char} {position : Nat} (hletter : isCapital letter = true)
    (hplace : position + 1 < wordBound) :
    Reads (exactLine position letter) (.exact letter (some (position + 1))) := by
  have hline : IsExact (exactLine position letter).toList letter (numeral (position + 1)) :=
    ⟨hletter, numeral_ne_nil _, fun c hc => isDecimalDigit_of_mem_numeral hc, [' '], [' '],
      isBlanks_space, isBlanks_space, toList_exactLine hplace letter⟩
  refine ⟨?_, ?_⟩
  · rw [toList_exactLine hplace]
    exact (isNeat_letter hletter).join (by simp) (isNeat_numeral _)
  · rw [read?_of_isExact hline, readNumeral_numeral hplace]

theorem reads_presentLine_nil {letter : Char} (hletter : isCapital letter = true) :
    Reads (presentLine letter []) (.present letter []) := by
  have hline : IsPresent (presentLine letter []).toList letter [] :=
    ⟨hletter, [' '], [' '], [], isBlanks_space, isBlanks_space, .inl ⟨rfl, rfl⟩,
      toList_presentLine_nil letter⟩
  refine ⟨?_, read?_of_isPresent hline⟩
  rw [toList_presentLine_nil]
  exact (isNeat_letter hletter).join (by simp) (isNeat_of_visible (by simp) (by simp))

theorem reads_presentLine {letter : Char} {positions : List Nat} (hletter : isCapital letter = true)
    (hne : positions ≠ []) (hplaces : ∀ position ∈ positions, position + 1 < wordBound) :
    Reads (presentLine letter positions) (.present letter positions) := by
  have hexclusion : IsExclusion
      ([',', ' ', 'N', 'O', 'T', ' ', 'A', 'T', ' '] ++ numberList positions)
      (numberList positions) :=
    ⟨isListed_of_mem_numberList, [], [','], [' '], [' '], [' '], by simp, .inr rfl,
      isBlanks_space.2, isBlanks_space, isBlanks_space, rfl⟩
  have hline : IsPresent (presentLine letter positions).toList letter (numberList positions) :=
    ⟨hletter, [' '], [' '], _, isBlanks_space, isBlanks_space, .inr hexclusion,
      toList_presentLine hne hplaces letter⟩
  refine ⟨?_, ?_⟩
  · rw [toList_presentLine hne hplaces]
    exact (isNeat_letter hletter).join (by simp) (isNeat_numberList hne)
  · rw [read?_of_isPresent hline, listedPositions_numberList hne hplaces]

theorem reads_absentLine {letters : List Char} (hletters : IsCapitals letters)
    (hne : letters ≠ []) : Reads (absentLine letters) (.absent letters) := by
  have hline : IsAbsent (absentLine letters).toList (letterList letters) :=
    ⟨[' '], isBlanks_space, toList_absentLine letters⟩
  have hlisted := listedLetters_letterList hletters hne
  refine ⟨?_, ?_⟩
  · rw [toList_absentLine]
    exact (isNeat_of_visible (by simp) (by simp)).join (by simp) (isNeat_letterList hletters hne)
  · rcases read?_of_isAbsent hline with hread | ⟨-, hnone⟩
    · rw [hread, hlisted]
    · exact absurd (hlisted.symm.trans hnone) hne

theorem reads_lengthLine {length : Nat} (hlength : length < wordBound) :
    Reads (lengthLine length) (.length (some length)) := by
  have hline : IsLength (lengthLine length).toList (numeral length) :=
    ⟨numeral_ne_nil _, fun c hc => isDecimalDigit_of_mem_numeral hc, [], [' '], by simp,
      isBlanks_space.2, toList_lengthLine length⟩
  refine ⟨?_, ?_⟩
  · rw [toList_lengthLine]
    exact (isNeat_of_visible (by simp) (by simp)).join (by simp) (isNeat_numeral _)
  · rw [read?_of_isLength hline, readNumeral_numeral hlength]

def toClueLines (clues : Clues) : List ClueLine :=
  clues.exact.toList.map (fun (position, letter) => ClueLine.exact letter (some (position + 1))) ++
    clues.present.toList.map (fun (letter, positions) => ClueLine.present letter positions) ++
    (if clues.absent = [] then [] else [ClueLine.absent clues.absent.eraseDups]) ++
    [ClueLine.length (some clues.length)]

section ToClueLines

variable {clues : Clues}

theorem mem_toClueLines {line : ClueLine} :
    line ∈ clues.toClueLines ↔
      (∃ position letter, clues.exact[position]? = some letter ∧
        line = .exact letter (some (position + 1))) ∨
      (∃ letter positions, clues.present[letter]? = some positions ∧
        line = .present letter positions) ∨
      (clues.absent ≠ [] ∧ line = .absent clues.absent.eraseDups) ∨
      line = .length (some clues.length) := by
  simp [toClueLines, Std.ExtTreeMap.mem_toList_iff_getElem?_eq_some, eq_comm]

theorem lastWord?_toClueLines {β : Type} {hear : ClueLine → Option β} {said : Option β}
    (habsent : ∀ letters, hear (.absent letters) = none)
    (h : ∀ word, ((∃ position letter, clues.exact[position]? = some letter ∧
        hear (.exact letter (some (position + 1))) = some word) ∨
      (∃ letter positions, clues.present[letter]? = some positions ∧
        hear (.present letter positions) = some word) ∨
      hear (.length (some clues.length)) = some word) ↔ said = some word) :
    lastWord? hear clues.toClueLines = said := by
  refine lastWord?_eq_of_exists_iff fun word => (Iff.trans ⟨?_, ?_⟩ (h word))
  · rintro ⟨line, hline, hword⟩
    obtain ⟨position, letter, hentry, rfl⟩ | ⟨letter, positions, hentry, rfl⟩ | ⟨-, rfl⟩ | rfl :=
      mem_toClueLines.mp hline
    · exact .inl ⟨position, letter, hentry, hword⟩
    · exact .inr (.inl ⟨letter, positions, hentry, hword⟩)
    · rw [habsent] at hword
      cases hword
    · exact .inr (.inr hword)
  · rintro (⟨position, letter, hentry, hword⟩ | ⟨letter, positions, hentry, hword⟩ | hword)
    · exact ⟨_, mem_toClueLines.mpr (.inl ⟨position, letter, hentry, rfl⟩), hword⟩
    · exact ⟨_, mem_toClueLines.mpr (.inr (.inl ⟨letter, positions, hentry, rfl⟩)), hword⟩
    · exact ⟨_, mem_toClueLines.mpr (.inr (.inr (.inr rfl))), hword⟩

theorem lastWord?_barred?_toClueLines (letter : Char) :
    lastWord? (barred? letter) clues.toClueLines = clues.present[letter]? := by
  refine lastWord?_toClueLines (fun _ => rfl) fun positions => ?_
  simp only [barred?, Option.ite_none_right_eq_some, reduceCtorEq, and_false, exists_false,
    or_false, false_or, Option.some_inj]
  constructor
  · rintro ⟨_, _, hentry, rfl, rfl⟩
    exact hentry
  · intro hentry
    exact ⟨letter, positions, hentry, rfl, rfl⟩

theorem flatMap_ruledOut_toClueLines :
    clues.toClueLines.flatMap ruledOut = clues.absent.eraseDups := by
  have hexact : clues.exact.toList.flatMap (fun _ => ([] : List Char)) = [] :=
    List.flatMap_eq_nil_iff.mpr fun _ _ => rfl
  have hpresent : clues.present.toList.flatMap (fun _ => ([] : List Char)) = [] :=
    List.flatMap_eq_nil_iff.mpr fun _ _ => rfl
  by_cases hnone : clues.absent = [] <;>
    simp [toClueLines, ruledOut, hnone, List.flatMap_map, hexact, hpresent]

end ToClueLines

namespace Printable

variable {clues : Clues} (h : clues.Printable)
include h

theorem reads_toLines : List.Forall₂ Reads clues.toLines clues.toClueLines := by
  have hexact : List.Forall₂ Reads
      (clues.exact.toList.map fun (position, letter) => exactLine position letter)
      (clues.exact.toList.map fun (position, letter) => .exact letter (some (position + 1))) := by
    rw [List.forall₂_map_left_iff, List.forall₂_map_right_iff, List.forall₂_same]
    rintro ⟨position, letter⟩ hentry
    obtain ⟨hletter, hplace⟩ :=
      h.exact position letter (Std.ExtTreeMap.mem_toList_iff_getElem?_eq_some.mp hentry)
    exact reads_exactLine hletter (Nat.lt_trans (Nat.succ_lt_succ hplace) (by decide))
  have hpresent : List.Forall₂ Reads
      (clues.present.toList.map fun (letter, positions) => presentLine letter positions)
      (clues.present.toList.map fun (letter, positions) => .present letter positions) := by
    rw [List.forall₂_map_left_iff, List.forall₂_map_right_iff, List.forall₂_same]
    rintro ⟨letter, positions⟩ hentry
    obtain ⟨hletter, hplaces⟩ :=
      h.present letter positions (Std.ExtTreeMap.mem_toList_iff_getElem?_eq_some.mp hentry)
    by_cases hne : positions = []
    · rw [hne]
      exact reads_presentLine_nil hletter
    · exact reads_presentLine hletter hne hplaces
  have habsent : List.Forall₂ Reads
      (if clues.absent = [] then [] else [absentLine clues.absent.eraseDups])
      (if clues.absent = [] then [] else [.absent clues.absent.eraseDups]) := by
    split
    · exact .nil
    · next hne =>
        have hletters : IsCapitals clues.absent.eraseDups := fun letter hletter =>
          h.absent letter (List.mem_eraseDups.mp hletter)
        have hne' : clues.absent.eraseDups ≠ [] := mt eraseDups_eq_nil_iff.mp hne
        exact .cons (reads_absentLine hletters hne') .nil
  have hlength : List.Forall₂ Reads [lengthLine clues.length] [.length (some clues.length)] :=
    .cons (reads_lengthLine h.length.2) .nil
  exact List.rel_append (List.rel_append (List.rel_append hexact hpresent) habsent) hlength

theorem clueLines_toText : clueLines clues.toText = clues.toClueLines :=
  clueLines_joinWith (by simp [toLines]) h.reads_toLines

theorem lastWord?_letterAt?_toClueLines (position : Nat) :
    lastWord? (letterAt? position) clues.toClueLines = clues.exact[position]? := by
  refine lastWord?_toClueLines (fun _ => rfl) fun letter => ?_
  simp only [letterAt?, Option.ite_none_right_eq_some, reduceCtorEq, and_false, exists_false,
    or_false, Option.some_inj, Nat.add_right_cancel_iff]
  constructor
  · rintro ⟨_, _, hentry, ⟨-, rfl⟩, rfl⟩
    exact hentry
  · intro hentry
    exact ⟨position, letter, hentry, ⟨(h.exact position letter hentry).2, rfl⟩, rfl⟩

theorem lastWord?_measure?_toClueLines :
    lastWord? measure? clues.toClueLines = some clues.length := by
  refine lastWord?_toClueLines (fun _ => rfl) fun length => ?_
  simp only [measure?, Option.filter_eq_some_iff, decide_eq_true_eq, reduceCtorEq, and_false,
    exists_false, false_or, Option.some_inj, and_iff_left_iff_imp]
  rintro rfl
  exact h.length.1

theorem ofText_toText : ofText clues.toText = { clues with absent := clues.absent.eraseDups } := by
  rw [ofText, h.clueLines_toText]
  refine Clues.ext ?_ ?_ ?_ ?_
  · refine Std.ExtTreeMap.ext_getElem? fun position => ?_
    rw [exact_addAll, h.lastWord?_letterAt?_toClueLines]
  · refine Std.ExtTreeMap.ext_getElem? fun letter => ?_
    rw [present_addAll, lastWord?_barred?_toClueLines]
  · rw [absent_addAll, flatMap_ruledOut_toClueLines]
  · rw [length_addAll, h.lastWord?_measure?_toClueLines, Option.getD_some]

end Printable

theorem toText_eraseDups (clues : Clues) :
    { clues with absent := clues.absent.eraseDups }.toText = clues.toText := by
  simp only [toText, toLines, eraseDups_eq_nil_iff, eraseDups_eraseDups]

theorem violation?_eraseDups (clues : Clues) (word : String) :
    { clues with absent := clues.absent.eraseDups }.violation? word = clues.violation? word := by
  simp only [violation?, exactViolation?, absentViolation?, presentViolation?, find?_eraseDups]

/--
The clues of a text are read back from their canonical text.  Only repeated letters that do not
occur are gone, and neither the canonical text nor the judgement of a word depends on them.
-/
theorem ofText_toText_ofText (text : String) :
    (ofText (ofText text).toText).exact = (ofText text).exact ∧
      (ofText (ofText text).toText).present = (ofText text).present ∧
      (ofText (ofText text).toText).length = (ofText text).length ∧
      (ofText (ofText text).toText).absent = (ofText text).absent.eraseDups ∧
      (ofText (ofText text).toText).toText = (ofText text).toText ∧
      (ofText (ofText text).toText).seed? = (ofText text).seed? ∧
      ∀ word, (ofText (ofText text).toText).violation? word = (ofText text).violation? word := by
  have hagain : ofText (ofText text).toText =
      { ofText text with absent := (ofText text).absent.eraseDups } :=
    (ofText_printable text).ofText_toText
  rw [hagain]
  exact ⟨rfl, rfl, rfl, rfl, toText_eraseDups _, rfl, violation?_eraseDups _⟩

end Clues

end WordHunt
