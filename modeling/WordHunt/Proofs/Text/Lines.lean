import Mathlib.Data.List.Basic
import WordHunt.Proofs.Text.Blank
import WordHunt.Proofs.Text.Capitals
import WordHunt.Text.Line

/-!
# Lines of a text and words on a line

A line that is ended by a line feed is the first line of a text, and the other lines are those of
the rest.  The words on a line are its longest runs without blanks; it may be cut at any blank.
-/

namespace WordHunt.Text

/-! ## Lines -/

def IsLine (s : List Char) : Prop :=
  '\n' ∉ s ∧ s.getLast? ≠ some '\r'

theorem isLine_of_printed {line : List Char} (h : ∀ c ∈ line, 0x20 ≤ c.toNat) : IsLine line := by
  constructor
  · intro hfeed
    exact absurd (h '\n' hfeed) (by decide)
  · intro hlast
    exact absurd (h '\r' (List.mem_of_getLast? hlast)) (by decide)

theorem isLine_of_isTrimmed {line : List Char} (hfeed : '\n' ∉ line) (h : IsTrimmed line) :
    IsLine line := by
  refine ⟨hfeed, fun hlast => ?_⟩
  exact absurd (h.2 '\r' hlast) (by decide)

theorem lines_append_lineFeed {line : List Char} (h : IsLine line) (rest : List Char) :
    lines (line ++ '\n' :: rest) = line :: lines rest := by
  have hreturn : dropReturn line = line := if_neg h.2
  obtain ⟨next, pieces, hpieces⟩ :=
    List.exists_cons_of_ne_nil (List.splitOnP_ne_nil (· == '\n') rest)
  have hrest : rest.splitOn '\n' = next :: pieces := hpieces
  rw [lines, lines, List.splitOn_append_cons_self_of_not_mem h.1, hrest, linesOfPieces, hreturn]

theorem lines_flatMap_append {texts : List (List Char)} (h : ∀ text ∈ texts, IsLine text)
    (rest : List Char) : lines (texts.flatMap (· ++ ['\n']) ++ rest) = texts ++ lines rest := by
  induction texts with
  | nil => rfl
  | cons text texts ih =>
      rw [List.forall_mem_cons] at h
      have hcut : (text :: texts).flatMap (· ++ ['\n']) ++ rest =
          text ++ '\n' :: (texts.flatMap (· ++ ['\n']) ++ rest) := by
        simp
      rw [hcut, lines_append_lineFeed h.1, ih h.2, List.cons_append]

theorem lines_intercalate {texts : List (List Char)} (h : ∀ text ∈ texts, IsLine text)
    (hlast : texts.getLast? ≠ some []) : lines (['\n'].intercalate texts) = texts := by
  induction texts with
  | nil => rfl
  | cons text texts ih =>
      rw [List.forall_mem_cons] at h
      cases texts with
      | nil =>
          have hne : text ≠ [] := fun hempty => hlast (by rw [hempty]; rfl)
          rw [List.intercalate_singleton, lines, List.splitOn_eq_singleton h.1.1, linesOfPieces,
            if_neg hne]
      | cons next texts =>
          rw [List.getLast?_cons_cons] at hlast
          rw [List.intercalate_cons_cons, List.append_assoc, List.singleton_append,
            lines_append_lineFeed h.1, ih h.2 hlast]

theorem lineFeed_notMem_of_mem_lines {s line : List Char} (h : line ∈ lines s) : '\n' ∉ line := by
  have hpieces (pieces : List (List Char)) (hmem : line ∈ linesOfPieces pieces) :
      ∃ piece ∈ pieces, line ⊆ piece := by
    induction pieces using linesOfPieces.induct with
    | case1 => cases hmem
    | case2 => cases hmem
    | case3 last hlast =>
        rw [linesOfPieces, if_neg hlast] at hmem
        exact ⟨last, List.mem_singleton_self last, by rw [List.mem_singleton.mp hmem]; simp⟩
    | case4 piece next pieces ih =>
        rw [linesOfPieces, List.mem_cons] at hmem
        rcases hmem with rfl | hmem
        · refine ⟨piece, List.mem_cons_self, ?_⟩
          rw [dropReturn]
          split
          · exact List.dropLast_subset piece
          · exact List.Subset.refl piece
        · obtain ⟨other, hother, hsubset⟩ := ih hmem
          exact ⟨other, List.mem_cons_of_mem piece hother, hsubset⟩
  obtain ⟨piece, hpiece, hsubset⟩ := hpieces _ h
  intro hfeed
  have hfree := not_of_mem_splitOnP hpiece '\n' (hsubset hfeed)
  simp at hfree

theorem intercalate_nil (pieces : List (List Char)) : [].intercalate pieces = pieces.flatten := by
  induction pieces with
  | nil => rfl
  | cons piece pieces ih =>
      cases pieces with
      | nil => simp
      | cons next pieces =>
          rw [List.intercalate_cons_cons, ih, List.append_nil]
          rfl

theorem toList_joinWith_nil (texts : List String) :
    (joinWith "" texts).toList = texts.flatMap String.toList := by
  rw [joinWith, String.toList_ofList, List.flatMap_def]
  exact intercalate_nil (texts.map String.toList)

theorem splitOn_joinWith {texts : List String} (hne : texts ≠ [])
    (h : ∀ text ∈ texts, '\n' ∉ text.toList) :
    (joinWith "\n" texts).toList.splitOn '\n' = texts.map String.toList := by
  rw [joinWith, String.toList_ofList]
  refine List.splitOn_intercalate '\n' (fun piece hpiece => ?_) (by simpa using hne)
  obtain ⟨text, htext, rfl⟩ := List.mem_map.mp hpiece
  exact h text htext

/-! ## Words -/

def wordsOn (s : List Char) : List (List Char) :=
  (s.splitOnP isBlank).filter (· ≠ [])

theorem wordsOn_append_cons (s t : List Char) {c : Char} (hc : isBlank c = true) :
    wordsOn (s ++ c :: t) = wordsOn s ++ wordsOn t := by
  rw [wordsOn, List.splitOnP_append_cons s t hc, List.filter_append]
  rfl

theorem wordsOn_blanks_append {blanks : List Char} (h : ∀ c ∈ blanks, isBlank c = true)
    (s : List Char) : wordsOn (blanks ++ s) = wordsOn s := by
  induction blanks with
  | nil => rfl
  | cons c blanks ih =>
      rw [List.forall_mem_cons] at h
      have hcut := wordsOn_append_cons [] (blanks ++ s) h.1
      rw [ih h.2] at hcut
      exact hcut

theorem wordsOn_append {s t : List Char} (ht : ∀ c ∈ t.head?, isBlank c = true) :
    wordsOn (s ++ t) = wordsOn s ++ wordsOn t := by
  cases t with
  | nil =>
      have hnone : wordsOn [] = [] := rfl
      rw [hnone, List.append_nil, List.append_nil]
  | cons c t =>
      have hc : isBlank c = true := ht c rfl
      have hskip : wordsOn (c :: t) = wordsOn t := wordsOn_append_cons [] t hc
      rw [wordsOn_append_cons s t hc, hskip]

theorem wordsOn_of_visible {s : List Char} (h : ∀ c ∈ s, isBlank c = false) (hne : s ≠ []) :
    wordsOn s = [s] := by
  rw [wordsOn, List.splitOnP_eq_singleton h]
  simp [hne]

end WordHunt.Text
