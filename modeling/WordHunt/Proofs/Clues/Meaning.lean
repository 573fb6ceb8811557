import WordHunt.Clues.Reader
import WordHunt.Proofs.Clues.Forms
import WordHunt.Proofs.Text.UpperCase

/-!
# What a text of clues means

A text is cut at its line feeds, and each line is trimmed and put in upper case.  Such a line may
settle a letter, exclude positions, measure the word or rule letters out.  Of the lines that settle
the same position, exclude positions of the same letter or measure the word, the last one counts;
the letters ruled out by all lines are put one after the other; no other line matters.
-/

namespace WordHunt

open Text

/-! ## The last word -/

section LastWord

variable {α β γ : Type} {hear : α → Option β} {items : List α} {word : β}

def lastWord? (hear : α → Option β) (items : List α) : Option β :=
  items.reverse.findSome? hear

theorem lastWord?_cons (item : α) :
    lastWord? hear (item :: items) = (lastWord? hear items).or (hear item) := by
  simp [lastWord?, List.findSome?_append]

theorem lastWord?_eq_none_iff : lastWord? hear items = none ↔ ∀ item ∈ items, hear item = none := by
  simp [lastWord?, List.findSome?_eq_none_iff]

theorem lastWord?_eq_some_iff :
    lastWord? hear items = some word ↔
      ∃ before item after, items = before ++ item :: after ∧ hear item = some word ∧
        ∀ later ∈ after, hear later = none := by
  rw [lastWord?, List.findSome?_eq_some_iff]
  constructor
  · rintro ⟨after, item, before, hitems, hword, hafter⟩
    refine ⟨before.reverse, item, after.reverse, ?_, hword, fun later hlater => ?_⟩
    · rw [← List.reverse_reverse items, hitems]
      simp
    · exact hafter later (List.mem_reverse.mp hlater)
  · rintro ⟨before, item, after, rfl, hword, hafter⟩
    refine ⟨after.reverse, item, before.reverse, by simp, hword, fun later hlater => ?_⟩
    exact hafter later (List.mem_reverse.mp hlater)

theorem lastWord?_eq_of_exists_iff {said : Option β}
    (h : ∀ word, (∃ item ∈ items, hear item = some word) ↔ said = some word) :
    lastWord? hear items = said := by
  cases hlast : lastWord? hear items with
  | none =>
      have hsilent := lastWord?_eq_none_iff.mp hlast
      refine (Option.eq_none_iff_forall_ne_some.mpr fun word hword => ?_).symm
      obtain ⟨item, hitem, htold⟩ := (h word).mpr hword
      rw [hsilent item hitem] at htold
      cases htold
  | some word =>
      obtain ⟨before, item, after, rfl, hword, -⟩ := lastWord?_eq_some_iff.mp hlast
      exact ((h word).mp ⟨item, by simp, hword⟩).symm

theorem lastWord?_filterMap (read : γ → Option α) (items : List γ) :
    lastWord? hear (items.filterMap read) =
      lastWord? (fun item => (read item).bind hear) items := by
  induction items with
  | nil => rfl
  | cons item items ih =>
      rw [lastWord?_cons, ← ih]
      cases hitem : read item with
      | none => rw [List.filterMap_cons_none hitem, Option.bind_none, Option.or_none]
      | some heard => rw [List.filterMap_cons_some hitem, lastWord?_cons, Option.bind_some]

theorem foldl_eq_lastWord? {σ : Type} {step : σ → α → σ} (part : σ → Option β)
    (hstep : ∀ state item, part (step state item) = (hear item).or (part state)) (state : σ)
    (items : List α) :
    part (items.foldl step state) = (lastWord? hear items).or (part state) := by
  induction items generalizing state with
  | nil => rfl
  | cons item items ih =>
      rw [List.foldl_cons, ih, hstep, lastWord?_cons, Option.or_assoc]

/-- Of the lines that say something, the last one says this. -/
def IsLastWord (Tells : List Char → β → Prop) (lines : List (List Char)) (word : β) : Prop :=
  ∃ before line after, lines = before ++ line :: after ∧ Tells line word ∧
    ∀ later ∈ after, ∀ other, ¬ Tells later other

variable {Tells : List Char → β → Prop} {reads : List Char → Option β} {lines : List (List Char)}

theorem lastWord?_iff_isLastWord (h : ∀ line word, reads line = some word ↔ Tells line word) :
    lastWord? reads lines = some word ↔ IsLastWord Tells lines word := by
  simp only [lastWord?_eq_some_iff, IsLastWord, Option.eq_none_iff_forall_ne_some, ne_eq, h]

theorem lastWord?_eq_none_iff_forall_not
    (h : ∀ line word, reads line = some word ↔ Tells line word) :
    lastWord? reads lines = none ↔ ∀ line ∈ lines, ∀ word, ¬ Tells line word := by
  rw [lastWord?_eq_none_iff]
  simp only [Option.eq_none_iff_forall_ne_some, ne_eq, h]

end LastWord

/-! ## What a line says -/

namespace ClueLine

def Settles (line : List Char) (position : Nat) (letter : Char) : Prop :=
  ∃ digits, IsExact line letter digits ∧ readNumeral wordBound digits = some (position + 1)

/-- The line says that a letter occurs, and not at these positions. -/
def Excludes (line : List Char) (letter : Char) (positions : List Nat) : Prop :=
  ∃ part, IsPresent line letter part ∧
    positions = (((fields part).filterMap (readNumeral wordBound)).filter (1 ≤ ·)).map (· - 1)

def lettersAlone (rest : List Char) : List Char :=
  ((fields rest).filter (·.length = 1)).flatten.filter Char.isAlpha

/-- The line names these letters as such that do not occur. -/
def RulesOut (line letters : List Char) : Prop :=
  (∃ rest, IsAbsent line rest ∧ letters = lettersAlone rest) ∨
    (∀ rest, ¬ IsAbsent line rest) ∧ letters = []

def Measures (line : List Char) (length : Nat) : Prop :=
  0 < length ∧ ∃ digits, IsLength line digits ∧ readNumeral wordBound digits = some length

def Speaks (line : List Char) : Prop :=
  (∃ position letter, position < Clues.maxPlace ∧ Settles line position letter) ∨
    (∃ letter positions, Excludes line letter positions) ∨
    (∃ letters, RulesOut line letters ∧ letters ≠ []) ∨ ∃ length, Measures line length

def letterAt? (position : Nat) : ClueLine → Option Char
  | .exact letter place =>
      if position < Clues.maxPlace ∧ place = some (position + 1) then some letter else none
  | _ => none

def barred? (letter : Char) : ClueLine → Option (List Nat)
  | .present other excluded => if other = letter then some excluded else none
  | _ => none

def ruledOut : ClueLine → List Char
  | .absent letters => letters
  | _ => []

def measure? : ClueLine → Option Nat
  | .length value => value.filter (0 < ·)
  | _ => none

section Line

variable {line : List Char}

theorem bind_read?_eq_some_iff {β : Type} {hear : ClueLine → Option β} {word : β}
    (habsent : ∀ letters, hear (.absent letters) = none) :
    (read? line).bind hear = some word ↔
      (∃ letter digits, IsExact line letter digits ∧
        hear (.exact letter (readNumeral wordBound digits)) = some word) ∨
      (∃ letter part, IsPresent line letter part ∧
        hear (.present letter (listedPositions part)) = some word) ∨
      ∃ digits, IsLength line digits ∧
        hear (.length (readNumeral wordBound digits)) = some word := by
  constructor
  · intro h
    obtain ⟨clue, hread, hword⟩ := Option.bind_eq_some_iff.mp h
    obtain ⟨letter, digits, hline, rfl⟩ | ⟨rest, -, rfl⟩ | ⟨letter, part, hline, rfl⟩ |
      ⟨digits, hline, rfl⟩ := read?_cases hread
    · exact .inl ⟨letter, digits, hline, hword⟩
    · rw [habsent] at hword
      cases hword
    · exact .inr (.inl ⟨letter, part, hline, hword⟩)
    · exact .inr (.inr ⟨digits, hline, hword⟩)
  · rintro (⟨letter, digits, hline, hword⟩ | ⟨letter, part, hline, hword⟩ | ⟨digits, hline, hword⟩)
    · rw [read?_of_isExact hline, Option.bind_some, hword]
    · rw [read?_of_isPresent hline, Option.bind_some, hword]
    · rw [read?_of_isLength hline, Option.bind_some, hword]

theorem letterAt?_read? {position : Nat} {letter : Char} :
    (read? line).bind (letterAt? position) = some letter ↔
      position < Clues.maxPlace ∧ Settles line position letter := by
  rw [bind_read?_eq_some_iff fun _ => rfl]
  simp only [letterAt?, Option.ite_none_right_eq_some, reduceCtorEq, and_false, exists_false,
    or_false, Option.some_inj]
  constructor
  · rintro ⟨_, digits, hline, ⟨hplace, hvalue⟩, rfl⟩
    exact ⟨hplace, digits, hline, hvalue⟩
  · rintro ⟨hplace, digits, hline, hvalue⟩
    exact ⟨letter, digits, hline, ⟨hplace, hvalue⟩, rfl⟩

theorem barred?_read? {letter : Char} {positions : List Nat} :
    (read? line).bind (barred? letter) = some positions ↔ Excludes line letter positions := by
  rw [bind_read?_eq_some_iff fun _ => rfl]
  simp only [barred?, Option.ite_none_right_eq_some, reduceCtorEq, and_false, exists_false,
    or_false, false_or, Option.some_inj, listedPositions_eq]
  constructor
  · rintro ⟨_, part, hline, rfl, rfl⟩
    exact ⟨part, hline, rfl⟩
  · rintro ⟨part, hline, rfl⟩
    exact ⟨letter, part, hline, rfl, rfl⟩

theorem measure?_read? {length : Nat} :
    (read? line).bind measure? = some length ↔ Measures line length := by
  rw [bind_read?_eq_some_iff fun _ => rfl]
  simp only [measure?, Option.filter_eq_some_iff, decide_eq_true_eq, reduceCtorEq, and_false,
    exists_false, false_or]
  constructor
  · rintro ⟨digits, hline, hvalue, hpositive⟩
    exact ⟨hpositive, digits, hline, hvalue⟩
  · rintro ⟨hpositive, digits, hline, hvalue⟩
    exact ⟨digits, hline, hvalue, hpositive⟩

theorem lettersAlone_eq {rest : List Char} (h : ∀ c ∈ rest, c.isAlpha = isCapital c) :
    lettersAlone rest = listedLetters rest := by
  rw [lettersAlone, listedLetters_eq]
  refine List.filter_congr fun c hc => ?_
  obtain ⟨field, hfield, hmem⟩ := List.mem_flatten.mp hc
  exact h c (mem_of_mem_fields (List.mem_of_mem_filter hfield) hmem)

theorem ruledOut_read? (hupper : ∀ c ∈ line, c.isAlpha = isCapital c) :
    RulesOut line ((read? line).elim [] ruledOut) := by
  by_cases habsent : ∃ rest, IsAbsent line rest
  · obtain ⟨rest, hline⟩ := habsent
    refine .inl ⟨rest, hline, ?_⟩
    have hrest : ∀ c ∈ rest, c.isAlpha = isCapital c := fun c hc => by
      obtain ⟨blanks, -, rfl⟩ := hline
      exact hupper c (by simp [hc])
    rw [lettersAlone_eq hrest]
    rcases read?_of_isAbsent hline with hread | ⟨hread, hnone⟩
    · rw [hread]
      rfl
    · rw [hread, hnone]
      rfl
  · refine .inr ⟨not_exists.mp habsent, ?_⟩
    cases hread : read? line with
    | none => rfl
    | some clue =>
        obtain ⟨letter, digits, -, rfl⟩ | ⟨rest, hline, -⟩ | ⟨letter, part, -, rfl⟩ |
          ⟨digits, -, rfl⟩ := read?_cases hread
        · rfl
        · exact absurd ⟨rest, hline⟩ habsent
        · rfl
        · rfl

end Line

end ClueLine

/-! ## What a text says -/

namespace Clues

open ClueLine

section Add

variable (clues : Clues) (line : ClueLine)

theorem exists_add_exact (letter : Char) (place : Option Nat) :
    ∃ settled, clues.add (.exact letter place) = { clues with exact := settled } := by
  rcases place with _ | _ | position
  · exact ⟨clues.exact, rfl⟩
  · exact ⟨clues.exact, rfl⟩
  · by_cases hplace : position < maxPlace
    · exact ⟨clues.exact.insert position letter, if_pos hplace⟩
    · exact ⟨clues.exact, if_neg hplace⟩

theorem exists_add_length (value : Option Nat) :
    ∃ length, clues.add (.length value) = { clues with length := length } := by
  rcases value with _ | _ | length
  · exact ⟨clues.length, rfl⟩
  · exact ⟨clues.length, rfl⟩
  · exact ⟨length + 1, rfl⟩

theorem exact_add (position : Nat) :
    (clues.add line).exact[position]? = (line.letterAt? position).or clues.exact[position]? := by
  cases line with
  | exact letter place =>
      rcases place with _ | _ | other
      · simp [add, letterAt?]
      · simp [add, letterAt?]
      · by_cases hsame : other = position
        · subst hsame
          by_cases hplace : other < maxPlace <;> simp [add, letterAt?, hplace]
        · by_cases hplace : other < maxPlace <;>
            simp [add, letterAt?, hplace, hsame, Std.ExtTreeMap.getElem?_insert]
  | absent letters => rfl
  | present letter excluded => rfl
  | length value =>
      obtain ⟨length, hadd⟩ := clues.exists_add_length value
      rw [hadd]
      rfl

theorem present_add (letter : Char) :
    (clues.add line).present[letter]? = (line.barred? letter).or clues.present[letter]? := by
  cases line with
  | exact other place =>
      obtain ⟨settled, hadd⟩ := clues.exists_add_exact other place
      rw [hadd]
      rfl
  | absent letters => rfl
  | present other excluded =>
      by_cases hsame : other = letter <;>
        simp [add, barred?, hsame, Std.ExtTreeMap.getElem?_insert]
  | length value =>
      obtain ⟨length, hadd⟩ := clues.exists_add_length value
      rw [hadd]
      rfl

theorem length_add : some (clues.add line).length = line.measure?.or (some clues.length) := by
  cases line with
  | exact letter place =>
      obtain ⟨settled, hadd⟩ := clues.exists_add_exact letter place
      rw [hadd]
      rfl
  | absent letters => rfl
  | present letter excluded => rfl
  | length value => rcases value with _ | _ | length <;> rfl

theorem absent_add : (clues.add line).absent = clues.absent ++ line.ruledOut := by
  cases line with
  | exact letter place =>
      obtain ⟨settled, hadd⟩ := clues.exists_add_exact letter place
      rw [hadd]
      exact (List.append_nil clues.absent).symm
  | absent letters => rfl
  | present letter excluded => exact (List.append_nil clues.absent).symm
  | length value =>
      obtain ⟨length, hadd⟩ := clues.exists_add_length value
      rw [hadd]
      exact (List.append_nil clues.absent).symm

end Add

section AddAll

variable (lines : List ClueLine)

theorem exact_addAll (position : Nat) :
    (lines.foldl add {}).exact[position]? = lastWord? (letterAt? position) lines := by
  have hparts := foldl_eq_lastWord? (fun clues : Clues => clues.exact[position]?)
    (fun clues line => clues.exact_add line position) {} lines
  simpa using hparts

theorem present_addAll (letter : Char) :
    (lines.foldl add {}).present[letter]? = lastWord? (barred? letter) lines := by
  have hparts := foldl_eq_lastWord? (fun clues : Clues => clues.present[letter]?)
    (fun clues line => clues.present_add line letter) {} lines
  simpa using hparts

theorem length_addAll :
    (lines.foldl add {}).length = (lastWord? measure? lines).getD defaultLength := by
  have hparts := foldl_eq_lastWord? (fun clues : Clues => some clues.length) length_add {} lines
  rw [← Option.some_inj, hparts]
  cases lastWord? measure? lines <;> rfl

theorem absent_addAll : (lines.foldl add {}).absent = lines.flatMap ruledOut := by
  have habsent (clues : Clues) :
      (lines.foldl add clues).absent = clues.absent ++ lines.flatMap ruledOut := by
    induction lines generalizing clues with
    | nil => exact (List.append_nil clues.absent).symm
    | cons line lines ih =>
        rw [List.foldl_cons, ih, absent_add, List.append_assoc, List.flatMap_cons]
  exact habsent {}

end AddAll

def cleanLines (text : String) : List (List Char) :=
  (text.toList.splitOn '\n').map fun line => upper (trim line)

/-- The lines of a text that are not blank, trimmed and in upper case. -/
def heardLines (text : String) : List (List Char) :=
  ((lines text.toList).map fun line => upper (trim line)).filter (· ≠ [])

theorem trim_dropReturn (piece : List Char) : trim (dropReturn piece) = trim piece := by
  rw [dropReturn]
  split
  · next hlast =>
      obtain ⟨rest, rfl⟩ := List.getLast?_eq_some_iff.mp hlast
      rw [List.dropLast_concat, trim_append_right (by simp; decide)]
  · rfl

theorem heardLines_eq (text : String) : heardLines text = (cleanLines text).filter (· ≠ []) := by
  have hpieces (pieces : List (List Char)) :
      ((linesOfPieces pieces).map fun line => upper (trim line)).filter (· ≠ []) =
        (pieces.map fun line => upper (trim line)).filter (· ≠ []) := by
    induction pieces using linesOfPieces.induct with
    | case1 => rfl
    | case2 => rfl
    | case3 last hlast => rw [linesOfPieces, if_neg hlast]
    | case4 piece next pieces ih =>
        rw [linesOfPieces, List.map_cons, List.map_cons, List.filter_cons, List.filter_cons, ih,
          trim_dropReturn]
  exact hpieces _

theorem filterMap_read?_filter (lines : List (List Char)) :
    (lines.filter (· ≠ [])).filterMap read? = lines.filterMap read? := by
  rw [List.filterMap_filter]
  refine List.filterMap_congr fun line _ => ?_
  cases line with
  | nil => exact (read?_of_head (by simp)).symm
  | cons c line => rfl

theorem clueLines_eq_heardLines (text : String) :
    clueLines text = (heardLines text).filterMap read? := by
  rw [heardLines, filterMap_read?_filter, List.filterMap_map]
  rfl

theorem clueLines_eq (text : String) : clueLines text = (cleanLines text).filterMap read? := by
  rw [clueLines_eq_heardLines, heardLines_eq, filterMap_read?_filter]

theorem cleanLines_append (first second : String) :
    cleanLines (first ++ "\n" ++ second) = cleanLines first ++ cleanLines second := by
  have hcut : (first ++ "\n" ++ second).toList = first.toList ++ '\n' :: second.toList := by
    simp
  have hpieces : (first.toList ++ '\n' :: second.toList).splitOn '\n' =
      first.toList.splitOn '\n' ++ second.toList.splitOn '\n' :=
    List.splitOnP_append_cons _ _ (by simp)
  rw [cleanLines, hcut, hpieces, List.map_append, cleanLines, cleanLines]

theorem clueLines_append (first second : String) :
    clueLines (first ++ "\n" ++ second) = clueLines first ++ clueLines second := by
  simp only [clueLines_eq, cleanLines_append, List.filterMap_append]

theorem isAlpha_of_mem_cleanLines {text : String} {line : List Char}
    (h : line ∈ cleanLines text) : ∀ c ∈ line, c.isAlpha = isCapital c := by
  obtain ⟨piece, -, rfl⟩ := List.mem_map.mp h
  exact fun c hc => isAlpha_of_mem_upper hc

/-- What is known from lines that are trimmed and in upper case. -/
structure FollowFrom (clues : Clues) (lines : List (List Char)) : Prop where
  exact_iff : ∀ position letter, clues.exact[position]? = some letter ↔
    position < maxPlace ∧ IsLastWord (Settles · position ·) lines letter
  exact_none_iff : ∀ position, clues.exact[position]? = none ↔
    (position < maxPlace → ∀ line ∈ lines, ∀ letter, ¬ Settles line position letter)
  present_iff : ∀ letter positions, clues.present[letter]? = some positions ↔
    IsLastWord (Excludes · letter ·) lines positions
  present_none_iff : ∀ letter, clues.present[letter]? = none ↔
    ∀ line ∈ lines, ∀ positions, ¬ Excludes line letter positions
  absent_eq : ∃ letters, List.Forall₂ RulesOut lines letters ∧ clues.absent = letters.flatten
  length_iff : ∀ length, clues.length = length ↔
    IsLastWord Measures lines length ∨
      (∀ line ∈ lines, ∀ other, ¬ Measures line other) ∧ length = defaultLength

section OfText

variable (text : String)

theorem exact_ofText (position : Nat) :
    (ofText text).exact[position]? =
      lastWord? (fun line => (read? line).bind (letterAt? position)) (cleanLines text) := by
  rw [ofText, exact_addAll, clueLines_eq, lastWord?_filterMap]

theorem present_ofText (letter : Char) :
    (ofText text).present[letter]? =
      lastWord? (fun line => (read? line).bind (barred? letter)) (cleanLines text) := by
  rw [ofText, present_addAll, clueLines_eq, lastWord?_filterMap]

theorem length_ofText :
    (ofText text).length =
      (lastWord? (fun line => (read? line).bind measure?) (cleanLines text)).getD
        defaultLength := by
  rw [ofText, length_addAll, clueLines_eq, lastWord?_filterMap]

theorem absent_ofText :
    (ofText text).absent =
      ((cleanLines text).map fun line => (read? line).elim [] ruledOut).flatten := by
  rw [ofText, absent_addAll, clueLines_eq]
  induction cleanLines text with
  | nil => rfl
  | cons line lines ih => cases hread : read? line <;> simp [hread, ih]

theorem ofText_followFrom : (ofText text).FollowFrom (cleanLines text) where
  exact_iff position letter := by
    -- Beyond the highest place both sides fail.
    rw [exact_ofText, lastWord?_iff_isLastWord fun line letter => letterAt?_read?]
    by_cases hplace : position < maxPlace <;> simp [IsLastWord, hplace]
  exact_none_iff position := by
    rw [exact_ofText, lastWord?_eq_none_iff_forall_not fun line letter => letterAt?_read?]
    by_cases hplace : position < maxPlace <;> simp [hplace]
  present_iff letter positions := by
    rw [present_ofText, lastWord?_iff_isLastWord fun line positions => barred?_read?]
  present_none_iff letter := by
    rw [present_ofText, lastWord?_eq_none_iff_forall_not fun line positions => barred?_read?]
  absent_eq := by
    refine ⟨_, ?_, absent_ofText text⟩
    rw [List.forall₂_map_right_iff, List.forall₂_same]
    exact fun line hline => ruledOut_read? (isAlpha_of_mem_cleanLines hline)
  length_iff length := by
    rw [length_ofText, ← lastWord?_iff_isLastWord fun line length => measure?_read?,
      ← lastWord?_eq_none_iff_forall_not fun line length => measure?_read?]
    cases lastWord? (fun line => (read? line).bind measure?) (cleanLines text) with
    | none => simp [eq_comm]
    | some word => simp

def hearLine (clues : Clues) (line : List Char) : Clues :=
  (read? line).elim clues clues.add

theorem hearLine_of_not_speaks {line : List Char} (hupper : ∀ c ∈ line, c.isAlpha = isCapital c)
    (h : ¬ Speaks line) (clues : Clues) : clues.hearLine line = clues := by
  obtain ⟨hsettles, hexcludes, hrules, hmeasures⟩ := by simpa only [Speaks, not_or] using h
  rw [hearLine]
  cases hread : read? line with
  | none => rfl
  | some clue =>
      obtain ⟨letter, digits, hline, rfl⟩ | ⟨rest, hline, rfl⟩ | ⟨letter, part, hline, rfl⟩ |
        ⟨digits, hline, rfl⟩ := read?_cases hread
      -- A form that does not speak has no value, or one that is out of range.
      · rcases hvalue : readNumeral wordBound digits with _ | _ | position
        · rfl
        · rfl
        · refine if_neg fun hplace => ?_
          exact hsettles ⟨position, letter, hplace, digits, hline, hvalue⟩
      · have hnone : listedLetters rest = [] := by
          by_contra hne
          have hrest := ruledOut_read? hupper
          rw [hread] at hrest
          exact hrules ⟨_, hrest, hne⟩
        simp [add, hnone]
      · exact absurd ⟨letter, _, part, hline, rfl⟩ hexcludes
      · rcases hvalue : readNumeral wordBound digits with _ | _ | length
        · rfl
        · rfl
        · exact absurd ⟨length + 1, Nat.succ_pos length, digits, hline, hvalue⟩ hmeasures

theorem ofText_eq_foldl_hearLine : ofText text = (cleanLines text).foldl hearLine {} := by
  rw [ofText, clueLines_eq, List.foldl_filterMap]
  refine List.foldl_ext _ _ _ fun clues line _ => ?_
  cases hread : read? line <;> simp [hearLine, hread]

open Classical in
theorem ofText_eq_foldl_speaks :
    ofText text = ((cleanLines text).filter Speaks).foldl hearLine {} := by
  rw [ofText_eq_foldl_hearLine, List.foldl_filter]
  refine List.foldl_ext _ _ _ fun clues line hline => ?_
  split
  · rfl
  · next hsilent =>
      refine hearLine_of_not_speaks (isAlpha_of_mem_cleanLines hline) ?_ clues
      simpa using hsilent

open Classical in
/--
A text of clues means what its lines say, the last line about each matter; its other lines have no
effect.
-/
theorem ofText_follows_from_speaking_lines :
    (ofText text).FollowFrom (cleanLines text) ∧
      ∀ other, (cleanLines other).filter Speaks = (cleanLines text).filter Speaks →
        ofText other = ofText text := by
  refine ⟨ofText_followFrom text, fun other hsame => ?_⟩
  rw [ofText_eq_foldl_speaks, hsame, ← ofText_eq_foldl_speaks]

example :
    let clues := ofText
      " o at 3\nE AT 03 \nK AT 10\nno s,  t ,RE\nNOS\na in word, not at 2,0,,2\nlength: 0"
    clues.exact.toList = [(2, 'E')] ∧ clues.present.toList = [('A', [1, 1])] ∧
      clues.absent = ['S', 'T'] ∧ clues.length = defaultLength := by
  decide +kernel

end OfText

end Clues

end WordHunt
