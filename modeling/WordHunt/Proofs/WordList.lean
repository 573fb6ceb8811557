import WordHunt.Proofs.Screening
import WordHunt.Proofs.Text.Lines
import WordHunt.Proofs.Text.UpperAgain

/-!
# Word lists

An entry of a word list is a line that begins and ends with something visible, and it is its own
upper case.  Entries that are written one a line are a word list again, and what a screening accepts
of a word list are entries of it, unchanged.
-/

namespace WordHunt

open Text

structure IsEntry (word : String) : Prop where
  nonempty : word.toList ≠ []
  trimmed : IsTrimmed word.toList
  lineFeed : '\n' ∉ word.toList
  raised : upperCase word = word

namespace IsEntry

variable {word : String} (h : IsEntry word)
include h

theorem isLine : IsLine word.toList :=
  isLine_of_isTrimmed h.lineFeed h.trimmed

end IsEntry

theorem isEntry_of_mem_wordList {text word : String} (h : word ∈ wordList text) :
    IsEntry word := by
  simp only [wordList, List.mem_map, List.mem_filter, decide_eq_true_eq] at h
  obtain ⟨_, ⟨⟨line, hline, rfl⟩, hne⟩, rfl⟩ := h
  constructor
  · rw [String.toList_ofList]
    exact upper_ne_nil hne
  · rw [String.toList_ofList]
    exact isTrimmed_upper (isTrimmed_trim line)
  · rw [String.toList_ofList]
    intro hfeed
    have htrimmed : '\n' ∈ trim line := mem_of_mem_upper (by decide) hfeed
    exact lineFeed_notMem_of_mem_lines hline (mem_of_mem_trim htrimmed)
  · rw [upperCase, String.toList_ofList, upper_upper]

theorem wordList_joinWith {words : List String} (h : ∀ word ∈ words, IsEntry word) :
    wordList (joinWith "\n" words) = words := by
  have hlines : lines (joinWith "\n" words).toList = words.map String.toList := by
    rw [joinWith, String.toList_ofList]
    refine lines_intercalate (fun line hline => ?_) fun hlast => ?_
    · obtain ⟨word, hword, rfl⟩ := List.mem_map.mp hline
      exact (h word hword).isLine
    · obtain ⟨word, hword, hempty⟩ := List.mem_map.mp (List.mem_of_getLast? hlast)
      exact (h word hword).nonempty hempty
  have htrim : (words.map String.toList).map trim = words.map String.toList := by
    rw [List.map_map]
    exact List.map_congr_left fun word hword => (h word hword).trimmed.trim_eq
  have hfull : (words.map String.toList).filter (· ≠ []) = words.map String.toList := by
    simpa using fun word hword => (h word hword).nonempty
  have hraised : words.map upperCase = words.map id :=
    List.map_congr_left fun word hword => (h word hword).raised
  rw [wordList, hlines, htrim, hfull, List.map_map]
  exact hraised.trans (List.map_id words)

theorem wordList_joinWith_iff {words : List String} :
    wordList (joinWith "\n" words) = words ↔ ∀ word ∈ words, IsEntry word := by
  constructor
  · intro h word hword
    rw [← h] at hword
    exact isEntry_of_mem_wordList hword
  · exact wordList_joinWith

/--
A word list consists of entries: none is empty, has a blank at its ends, holds a line feed, or
changes in upper case.  Written one a line, they are the same word list again.
-/
theorem wordList_again (text : String) :
    (∀ word ∈ wordList text, IsEntry word) ∧
      wordList (joinWith "\n" (wordList text)) = wordList text := by
  have hentries : ∀ word ∈ wordList text, IsEntry word := fun word => isEntry_of_mem_wordList
  exact ⟨hentries, wordList_joinWith_iff.mpr hentries⟩

-- A ligature and a sharp s become two letters, and a carriage return stays within a line.
theorem wordList_again_sample :
    let text := "ﬁne\r\n\u00a0ŉeat\u2003\n\n \u0085\nß\rı"
    let words := ["FINE", "ʼNEAT", "SS\rI"]
    wordList text = words ∧ IsEntry "SS\rI" ∧ wordList (joinWith "\n" words) = words := by
  intro text words
  have hwords : wordList text = words := by decide +kernel
  obtain ⟨hentries, hagain⟩ := wordList_again text
  rw [hwords] at hentries hagain
  exact ⟨hwords, hentries "SS\rI" (by simp [words]), hagain⟩

namespace Clues

variable (clues : Clues)

theorem accepted_wordList (text : String) :
    (clues.screen (wordList text)).accepted = (wordList text).filter clues.fits :=
  clues.accepted_of_raised _ fun _ hword => (isEntry_of_mem_wordList hword).raised

end Clues

end WordHunt
