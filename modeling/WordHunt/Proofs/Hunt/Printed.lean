import WordHunt.Proofs.Clues.Canonical
import WordHunt.Proofs.Hunt.Memory
import WordHunt.Proofs.Text.Lines

/-!
# Reading a printed report

A reader of reports looks for the line that announces the words found and reads the words on the
lines below it, up to an empty line.  The printer sets each word flush right in a column of eight
characters, ten to a row.  Words of fewer than eight letters have a blank before them and are read
back as they were; longer ones fill their columns, and a row of them is read as one word.
-/

namespace WordHunt

open Text

variable {σ : Type}

namespace Report

/-! ## Reading -/

/-- The number of words found, if a line announces it. -/
def announced? (line : List Char) : Option Nat := do
  let rest ← ClueLine.after? ['M', 'a', 't', 'c', 'h', 'e', 's', ' ', '('] line
  let digits := rest.takeWhile Char.isDigit
  if digits ≠ [] ∧ rest.dropWhile Char.isDigit = [')', ':'] then
    some (Nat.ofDigitChars 10 digits 0)
  else none

def readRow (line : List Char) : List String :=
  (wordsOn line).map String.ofList

def readLines? : List (List Char) → Option (Nat × List (List String))
  | [] => none
  | line :: below =>
      match announced? line with
      | some count => some (count, (below.takeWhile (· ≠ [])).map readRow)
      | none => readLines? below

/-- The number that is announced and the words on each of the lines below it. -/
def readFound? (text : String) : Option (Nat × List (List String)) :=
  readLines? (lines text.toList)

def announcement (count : Nat) : String :=
  "Matches (" ++ numeralText count ++ "):"

theorem announced?_of_head {line : List Char} (h : line.head? ≠ some 'M') :
    announced? line = none := by
  have hnone : ClueLine.after? ['M', 'a', 't', 'c', 'h', 'e', 's', ' ', '('] line = none := by
    cases line with
    | nil => rfl
    | cons c line =>
        have hc : c ≠ 'M' := fun heq => h (by rw [heq]; rfl)
        simp [ClueLine.after?, List.isPrefixOf, Ne.symm hc]
  rw [announced?, hnone]
  rfl

theorem announced?_announcement (n : Nat) : announced? (announcement n).toList = some n := by
  have hstop : ∀ c ∈ [')', ':'].head?, c.isDigit = false := by simp
  have hline : (announcement n).toList =
      ['M', 'a', 't', 'c', 'h', 'e', 's', ' ', '('] ++ (numeral n ++ [')', ':']) := by
    simp [announcement, numeralText]
  have hvalue : Nat.ofDigitChars 10 (numeral n) 0 = n :=
    Nat.ofDigitChars_ten_toDigits
  rw [hline, announced?, ClueLine.after?_append]
  simp only [Option.bind_eq_bind, Option.bind_some, takeWhile_numeral_append n hstop,
    dropWhile_numeral_append n hstop, and_true]
  rw [if_pos (numeral_ne_nil n), hvalue]

theorem readLines?_append {above : List (List Char)}
    (habove : ∀ line ∈ above, announced? line = none)
    {line : List Char} {count : Nat} (hline : announced? line = some count)
    {printed : List (List Char)} (hprinted : ∀ row ∈ printed, row ≠ []) (rest : List (List Char)) :
    readLines? (above ++ line :: (printed ++ [] :: rest)) =
      some (count, printed.map readRow) := by
  induction above with
  | nil =>
      have htake : (printed ++ [] :: rest).takeWhile (· ≠ []) = printed := by
        rw [List.takeWhile_append_of_pos (by simpa using hprinted),
          List.takeWhile_cons_of_neg (by simp), List.append_nil]
      rw [List.nil_append, readLines?, hline]
      simp only [htake]
  | cons first above ih =>
      rw [List.forall_mem_cons] at habove
      rw [List.cons_append, readLines?, habove.1]
      exact ih habove.2

/-! ## Rows -/

theorem flatten_rows {α : Type} (items : List α) : (rows items).flatten = items := by
  induction items using rows.induct with
  | case1 => simp [rows]
  | case2 first rest ih => simp [rows, ih]

theorem length_of_mem_rows {α : Type} {items row : List α} (h : row ∈ rows items) :
    row ≠ [] ∧ row.length ≤ 10 := by
  induction items using rows.induct with
  | case1 => simp [rows] at h
  | case2 first rest ih =>
      rw [rows, List.mem_cons] at h
      rcases h with rfl | h
      · simp
      · exact ih h

theorem mem_of_mem_rows {α : Type} {items row : List α} (h : row ∈ rows items) {item : α}
    (hitem : item ∈ row) : item ∈ items := by
  rw [← flatten_rows items]
  exact List.mem_flatten_of_mem h hitem

def rowText (row : List String) : List Char :=
  row.flatMap fun word => List.replicate (8 - word.length) ' ' ++ word.toList

theorem toList_joinWith_padLeft (row : List String) :
    (joinWith "" (row.map padLeft)).toList = rowText row := by
  simp [toList_joinWith_nil, rowText, padLeft, List.flatMap_map]

section Row

variable {length : Nat} {row : List String}

theorem isBlank_head?_rowText (hshort : length < 8) (h : ∀ word ∈ row, word.length = length) :
    ∀ c ∈ (rowText row).head?, isBlank c = true := by
  cases row with
  | nil => simp [rowText]
  | cons word row =>
      -- There is room for a blank before the first word.
      obtain ⟨room, hroom⟩ : ∃ room, 8 - word.length = room + 1 := by
        have hlength := h word List.mem_cons_self
        exact ⟨7 - word.length, by omega⟩
      rintro c hc
      rw [rowText, List.flatMap_cons, hroom, List.replicate_succ] at hc
      obtain rfl : ' ' = c := by simpa using hc
      decide

theorem wordsOn_rowText_of_short (hshort : length < 8)
    (hlength : ∀ word ∈ row, word.length = length)
    (hvisible : ∀ word ∈ row, word.toList ≠ [] ∧ ∀ c ∈ word.toList, isBlank c = false) :
    wordsOn (rowText row) = row.map String.toList := by
  induction row with
  | nil => rfl
  | cons word row ih =>
      rw [List.forall_mem_cons] at hvisible
      have hrow : ∀ word ∈ row, word.length = length := fun other hother =>
        hlength other (List.mem_cons_of_mem word hother)
      have hblanks : ∀ c ∈ List.replicate (8 - word.length) ' ', isBlank c = true := by
        intro c hc
        rw [List.eq_of_mem_replicate hc]
        decide
      have hcut : rowText (word :: row) =
          List.replicate (8 - word.length) ' ' ++ (word.toList ++ rowText row) := by
        simp [rowText]
      -- The text is cut where the word ends, at the end of the row or at the blank of the next word.
      rw [hcut, wordsOn_blanks_append hblanks, wordsOn_append (isBlank_head?_rowText hshort hrow),
        wordsOn_of_visible hvisible.1.2 hvisible.1.1, ih hrow hvisible.2]
      rfl

theorem wordsOn_rowText_of_long (hlong : 8 ≤ length) (hne : row ≠ [])
    (hlength : ∀ word ∈ row, word.length = length)
    (hvisible : ∀ word ∈ row, word.toList ≠ [] ∧ ∀ c ∈ word.toList, isBlank c = false) :
    wordsOn (rowText row) = [(joinWith "" row).toList] := by
  have htext : rowText row = row.flatMap String.toList := by
    refine List.flatMap_congr fun word hword => ?_
    have hfull : 8 - word.length = 0 := by
      have heq := hlength word hword
      omega
    rw [hfull]
    rfl
  rw [toList_joinWith_nil, htext]
  apply wordsOn_of_visible
  · intro c hc
    obtain ⟨word, hword, hc⟩ := List.mem_flatMap.mp hc
    exact (hvisible word hword).2 c hc
  · obtain ⟨word, row, rfl⟩ := List.exists_cons_of_ne_nil hne
    have hword := (hvisible word List.mem_cons_self).1
    simp [hword]

end Row

/-! ## Reports -/

/-- A line that announces nothing, and that is printed on one line. -/
def PassedOver (line : String) : Prop :=
  announced? line.toList = none ∧ ∀ c ∈ line.toList, 0x20 ≤ c.toNat

theorem passedOver_seedLine (report : Report) {seed : Seed} (h : isCapital seed.letter = true) :
    PassedOver (report.seedLine seed) := by
  have hletter := (isCapital_iff seed.letter).mp h
  have hnumeral (n : Nat) : ∀ c ∈ numeral n, 0x20 ≤ c.toNat := fun c hc =>
    ((isNeat_numeral n).printed c hc).1
  constructor
  · exact announced?_of_head (by simp [seedLine])
  · simp only [seedLine, Seed.toText, numeralText, String.toList_append, String.toList_ofList,
      String.toList_singleton, List.forall_mem_append, List.forall_mem_singleton]
    refine ⟨⟨⟨⟨⟨⟨?_, ⟨?_, ?_⟩, hnumeral _⟩, ?_⟩, hnumeral _⟩, ?_⟩, hnumeral _⟩, ?_⟩
    case refine_2 => omega
    all_goals simp

/-- A report of a hunt that was not given up, by clues that can be printed. -/
structure IsOrderly (report : Report) : Prop where
  clues : report.clues.Printable
  seed : ∀ seed, report.seed = some seed → isCapital seed.letter = true
  diagnostic : report.diagnostic = none
  found : ∀ word ∈ report.found, IsCapitals word.toList ∧ word.length = report.clues.length

def linesAbove (report : Report) : List String :=
  "Rules:" :: report.clues.toLines.map ("  " ++ ·) ++ "" ::
    (report.seed.map report.seedLine).toList

def firstLines (report : Report) : List String :=
  report.linesAbove ++ announcement report.found.length ::
    ((rows report.found).map (fun row => joinWith "" (row.map padLeft)) ++ [""])

theorem toList_toText (report : Report) :
    report.toText.toList = (report.toLines.map String.toList).flatMap (· ++ ['\n']) := by
  simp [toText, toList_joinWith_nil, List.flatMap_map]

theorem toLines_of_found {report : Report} (hdiagnostic : report.diagnostic = none)
    (hfound : report.found ≠ []) :
    report.toLines = report.firstLines ++ report.rejectionLines := by
  simp [toLines, hdiagnostic, foundLines, hfound, firstLines, linesAbove, announcement]

namespace IsOrderly

variable {report : Report} (h : report.IsOrderly)
include h

theorem visible_of_mem_found : ∀ word ∈ report.found,
    word.toList ≠ [] ∧ ∀ c ∈ word.toList, 0x20 < c.toNat ∧ isBlank c = false := by
  intro word hword
  obtain ⟨hcapitals, hlength⟩ := h.found word hword
  constructor
  · have hpositive := h.clues.length.1
    rw [← hlength, ← String.length_toList] at hpositive
    exact List.ne_nil_of_length_pos hpositive
  · intro c hc
    have hrange := (isCapital_iff c).mp (hcapitals c hc)
    have hlow : 0x20 < c.toNat := by omega
    exact ⟨hlow, isBlank_of_visible hlow (by omega)⟩

theorem passedOver_of_mem_linesAbove : ∀ line ∈ report.linesAbove, PassedOver line := by
  intro line hline
  simp only [linesAbove, List.mem_append, List.mem_cons, List.mem_map, Option.mem_toList,
    Option.map_eq_some_iff] at hline
  rcases hline with (rfl | ⟨clue, hclue, rfl⟩) | rfl | ⟨seed, hseed, rfl⟩
  · exact ⟨announced?_of_head (by simp), by simp⟩
  · have hneat := Clues.isNeat_of_reads h.clues.reads_toLines clue hclue
    constructor
    · exact announced?_of_head (by simp)
    · simpa using fun c hc => (hneat.printed c hc).1
  · exact ⟨announced?_of_head (by simp), by simp⟩
  · exact passedOver_seedLine report (h.seed seed hseed)

theorem rowText_printed : ∀ row ∈ rows report.found,
    rowText row ≠ [] ∧ ∀ c ∈ rowText row, 0x20 ≤ c.toNat := by
  intro row hrow
  have hvisible := fun word hword => h.visible_of_mem_found word (mem_of_mem_rows hrow hword)
  constructor
  · obtain ⟨word, row, rfl⟩ := List.exists_cons_of_ne_nil (length_of_mem_rows hrow).1
    have hword := (hvisible word List.mem_cons_self).1
    simp [rowText, hword]
  · intro c hc
    obtain ⟨word, hword, hc⟩ := List.mem_flatMap.mp hc
    rcases List.mem_append.mp hc with hc | hc
    · rw [List.eq_of_mem_replicate hc]
      decide
    · exact Nat.le_of_lt ((hvisible word hword).2 c hc).1

theorem map_readRow_rowText :
    (rows report.found).map (fun row => readRow (rowText row)) =
      if report.clues.length < 8 then rows report.found
      else (rows report.found).map fun row => [joinWith "" row] := by
  have hread : ∀ row ∈ rows report.found, readRow (rowText row) =
      if report.clues.length < 8 then row else [joinWith "" row] := by
    intro row hrow
    have hlength : ∀ word ∈ row, word.length = report.clues.length := fun word hword =>
      (h.found word (mem_of_mem_rows hrow hword)).2
    have hvisible : ∀ word ∈ row, word.toList ≠ [] ∧ ∀ c ∈ word.toList, isBlank c = false := by
      intro word hword
      obtain ⟨hne, hvisible⟩ := h.visible_of_mem_found word (mem_of_mem_rows hrow hword)
      exact ⟨hne, fun c hc => (hvisible c hc).2⟩
    rw [readRow]
    split
    · next hshort =>
        rw [wordsOn_rowText_of_short hshort hlength hvisible, List.map_map]
        simp
    · next hlong =>
        rw [wordsOn_rowText_of_long (Nat.le_of_not_lt hlong) (length_of_mem_rows hrow).1 hlength
          hvisible]
        simp
  rw [List.map_congr_left hread]
  split
  · exact List.map_id _
  · rfl

theorem printed_of_mem_firstLines :
    ∀ line ∈ report.firstLines, ∀ c ∈ line.toList, 0x20 ≤ c.toNat := by
  intro line hline
  simp only [firstLines, List.mem_append, List.mem_cons, List.mem_map, List.not_mem_nil,
    or_false] at hline
  rcases hline with habove | rfl | ⟨row, hrow, rfl⟩ | rfl
  · exact (h.passedOver_of_mem_linesAbove line habove).2
  · simp only [announcement, String.toList_append, numeralText, String.toList_ofList,
      List.forall_mem_append]
    exact ⟨⟨by simp, fun c hc => ((isNeat_numeral _).printed c hc).1⟩, by simp⟩
  · rw [toList_joinWith_padLeft]
    exact (h.rowText_printed row hrow).2
  · simp

theorem lines_toText (hfound : report.found ≠ []) :
    ∃ below, lines report.toText.toList =
      report.linesAbove.map String.toList ++ (announcement report.found.length).toList ::
        ((rows report.found).map rowText ++ [] :: below) := by
  have hprinted : ∀ line ∈ report.firstLines.map String.toList, IsLine line := by
    intro line hline
    obtain ⟨text, htext, rfl⟩ := List.mem_map.mp hline
    exact isLine_of_printed (h.printed_of_mem_firstLines text htext)
  -- Nothing is said of the lines below the empty one: they are whatever the rest is cut into.
  refine ⟨lines ((report.rejectionLines.map String.toList).flatMap (· ++ ['\n'])), ?_⟩
  rw [toList_toText, toLines_of_found h.diagnostic hfound, List.map_append, List.flatMap_append,
    lines_flatMap_append hprinted]
  simp [firstLines, Function.comp_def, toList_joinWith_padLeft]

theorem readFound?_toText (hfound : report.found ≠ []) :
    readFound? report.toText =
      some (report.found.length,
        if report.clues.length < 8 then rows report.found
        else (rows report.found).map fun row => [joinWith "" row]) := by
  have habove : ∀ line ∈ report.linesAbove.map String.toList, announced? line = none := by
    intro line hline
    obtain ⟨text, htext, rfl⟩ := List.mem_map.mp hline
    exact (h.passedOver_of_mem_linesAbove text htext).1
  have hprinted : ∀ line ∈ (rows report.found).map rowText, line ≠ [] := by
    intro line hline
    obtain ⟨row, hrow, rfl⟩ := List.mem_map.mp hline
    exact (h.rowText_printed row hrow).1
  obtain ⟨below, hlines⟩ := h.lines_toText hfound
  rw [readFound?, hlines, readLines?_append habove (announced?_announcement _) hprinted,
    List.map_map, ← h.map_readRow_rowText]
  rfl

end IsOrderly

end Report

/-! ## Reports of hunts -/

theorem Gathered.found_of_ofHarvest {clues : Clues} {seed : Seed}
    {harvested : Except Failure Harvest} {report : Report}
    (h : ofHarvest clues seed harvested = .ended (.ok report)) : report.found = [] := by
  cases harvested with
  | error failure => cases h
  | ok harvest =>
      rw [ofHarvest] at h
      split at h
      · cases h
        rfl
      · cases h

namespace Hunter

variable {hunter : Hunter} {task : Task} {partner : Partner σ} {state : σ}

theorem found_of_ended {report : Report}
    (h : ((hunter.gather task).hold partner state).value = .ended (.ok report)) :
    report.found = [] := by
  rw [gather, Dialogue.hold_seq] at h
  generalize (hunter.understand task).hold partner state = understood at h
  obtain ⟨value, events, after⟩ := understood
  cases value with
  | error failure => cases h
  | ok clues =>
      simp only [gatherBy] at h
      split at h
      · cases h
        rfl
      · rw [Dialogue.hold_seq] at h
        exact Gathered.found_of_ofHarvest h

theorem printable_of_understand {clues : Clues} (htask : ∀ known, task ≠ .byClues known)
    (h : ((hunter.understand task).hold partner state).value = .ok clues) :
    clues.Printable := by
  cases task with
  | byClues known => exact absurd rfl (htask known)
  | byLines text =>
      obtain rfl := Except.ok.inj h
      exact Clues.ofText_printable text
  | byWords text =>
      rw [understand] at h
      split at h
      · cases h
      · next scribe hscribe =>
          simp only [Dialogue.hold_seq, Dialogue.hold_pure] at h
          generalize ((scribe.write text).hold partner state).value = written at h
          cases written with
          | error failure => cases h
          | ok lines =>
              obtain rfl := Except.ok.inj h
              exact Clues.ofText_printable lines

theorem isOrderly_of_found (htask : ∀ known, task ≠ .byClues known) {report : Report}
    (h : ((hunter.pursue task).hold partner state).value.1 = .ok report)
    (hfound : report.found ≠ []) : report.IsOrderly := by
  cases hgathered : ((hunter.gather task).hold partner state).value with
  | ended ends =>
      rw [hold_pursue_of_ended partner state hgathered] at h
      obtain rfl : ends = .ok report := h
      exact absurd (found_of_ended hgathered) hfound
  | kept clues seed harvest =>
      obtain ⟨hclues, hseed, -⟩ := (hunter.hold_gather_eq_kept_iff _ _ task).mp hgathered
      have hprintable := printable_of_understand htask hclues
      have hletter := ((clues.seed?_eq_some_iff seed).mp hseed).1
      have hwords := capitals_of_gathered partner state hgathered
      rw [hold_pursue_of_kept partner state hgathered, hold_conclude_value] at h
      obtain rfl := Except.ok.inj h
      constructor
      · exact hprintable
      · rintro _ ⟨⟩
        exact (hprintable.exact _ _ hletter).1
      · rfl
      · intro word hword
        exact hwords word ((hunter.confirmed_sublist _ _ _ _).subset (mem_alphabetical.mp hword))

end Hunter

end WordHunt
