import Mathlib.Data.List.Perm.Basic
import WordHunt.Proofs.Clues.Meaning
import WordHunt.Proofs.Screening
import WordHunt.Proofs.Text.Lines

/-!
# The order of clue lines

Two lines of clues get in each other's way only if both settle the same position, both exclude
positions of the same letter, or both measure the word.  In a text without such lines the order
of the lines shows in one thing alone, the order in which the letters ruled out are named, and
words are screened alike whatever that order is.
-/

namespace WordHunt

open Text ClueLine

/-! ## Lines that say something once -/

section Once

variable {α β : Type} {hear : α → Option β} {items other : List α}

theorem lastWord?_of_perm (h : other.Perm items)
    (honce : items.Pairwise fun first second => hear first = none ∨ hear second = none) :
    lastWord? hear other = lastWord? hear items := by
  induction h with
  | nil => rfl
  | cons item _ ih => rw [lastWord?_cons, lastWord?_cons, ih honce.of_cons]
  | swap first second items =>
      have hsilent : hear first = none ∨ hear second = none :=
        List.rel_of_pairwise_cons honce List.mem_cons_self
      simp only [lastWord?_cons, Option.or_assoc]
      rcases hsilent with hnone | hnone <;> simp [hnone]
  | trans _ h ih₁ ih₂ =>
      have hmiddle := (h.pairwise_iff fun hor => hor.symm).mpr honce
      rw [ih₁ hmiddle, ih₂ honce]

/-- At most one line tells something. -/
def SaidOnce (Tells : List Char → β → Prop) (lines : List (List Char)) : Prop :=
  lines.Pairwise fun first second => ¬ ((∃ word, Tells first word) ∧ ∃ word, Tells second word)

theorem saidOnce_iff {hear : ClueLine → Option β} {Tells : List Char → β → Prop}
    (htells : ∀ line word, (read? line).bind hear = some word ↔ Tells line word)
    {lines : List (List Char)} :
    SaidOnce Tells lines ↔ (lines.map read?).Pairwise fun first second =>
      first.bind hear = none ∨ second.bind hear = none := by
  have hsilent (line : List Char) :
      (read? line).bind hear = none ↔ ¬ ∃ word, Tells line word := by
    rw [Option.eq_none_iff_forall_ne_some]
    simp only [ne_eq, htells, not_exists]
  simp only [SaidOnce, List.pairwise_map, hsilent, not_and_or]

end Once

/-- No two lines settle the same position, exclude positions of one letter or give a length. -/
structure SaysOnce (lines : List (List Char)) : Prop where
  settles : ∀ position, SaidOnce
    (fun line letter => position < Clues.maxPlace ∧ Settles line position letter) lines
  excludes : ∀ letter, SaidOnce (Excludes · letter ·) lines
  measures : SaidOnce Measures lines

namespace Clues

section Texts

variable {text other : String}

theorem perm_heardLines_joinWith {texts : List String}
    (h : (texts.map String.toList).Perm (lines text.toList)) :
    (heardLines (joinWith "\n" texts)).Perm (heardLines text) := by
  have hheard : heardLines (joinWith "\n" texts) =
      ((texts.map String.toList).map fun line => upper (trim line)).filter (· ≠ []) := by
    by_cases hnone : texts = []
    · subst hnone
      rfl
    · have hfree : ∀ line ∈ texts, '\n' ∉ line.toList := fun line hline =>
        lineFeed_notMem_of_mem_lines (h.subset (List.mem_map_of_mem hline))
      rw [heardLines_eq, cleanLines, splitOn_joinWith hnone hfree]
  rw [hheard]
  exact (h.map _).filter _

theorem lastWord?_clueLines_of_perm {β : Type} {hear : ClueLine → Option β}
    {Tells : List Char → β → Prop}
    (htells : ∀ line word, (read? line).bind hear = some word ↔ Tells line word)
    (honce : SaidOnce Tells (heardLines text))
    (horder : (heardLines other).Perm (heardLines text)) :
    lastWord? hear (clueLines other) = lastWord? hear (clueLines text) := by
  rw [saidOnce_iff htells, List.pairwise_map] at honce
  rw [clueLines_eq_heardLines, clueLines_eq_heardLines, lastWord?_filterMap, lastWord?_filterMap]
  exact lastWord?_of_perm horder honce

/-- The same clues, but for the order in which the letters ruled out were named. -/
structure AgreesWith (clues other : Clues) : Prop where
  exact_eq : clues.exact = other.exact
  present_eq : clues.present = other.present
  length_eq : clues.length = other.length
  absent_perm : clues.absent.Perm other.absent

theorem ofText_agreesWith (honce : SaysOnce (heardLines text))
    (horder : (heardLines other).Perm (heardLines text)) :
    (ofText other).AgreesWith (ofText text) where
  exact_eq := by
    refine Std.ExtTreeMap.ext_getElem? fun position => ?_
    rw [ofText, ofText, exact_addAll, exact_addAll]
    exact lastWord?_clueLines_of_perm (fun line letter => letterAt?_read?)
      (honce.settles position) horder
  present_eq := by
    refine Std.ExtTreeMap.ext_getElem? fun letter => ?_
    rw [ofText, ofText, present_addAll, present_addAll]
    exact lastWord?_clueLines_of_perm (fun line positions => barred?_read?)
      (honce.excludes letter) horder
  length_eq := by
    rw [ofText, ofText, length_addAll, length_addAll]
    rw [lastWord?_clueLines_of_perm (fun line length => measure?_read?) honce.measures horder]
  absent_perm := by
    rw [ofText, ofText, absent_addAll, absent_addAll, clueLines_eq_heardLines,
      clueLines_eq_heardLines]
    exact (horder.filterMap read?).flatMap_right ruledOut

end Texts

/-! ## Words screened by clues that agree -/

namespace AgreesWith

variable {clues other : Clues}

theorem seed?_eq (h : clues.AgreesWith other) : clues.seed? = other.seed? := by
  rw [seed?, seed?, h.exact_eq]

theorem kind_absentViolation? (h : clues.AgreesWith other) (letters : List Char) :
    (clues.absentViolation? letters).map Violation.kind =
      (other.absentViolation? letters).map Violation.kind := by
  have hkind (clues : Clues) {violation : Violation}
      (hfound : clues.absentViolation? letters = some violation) : violation.kind = .absent :=
    (clues.absentViolation?_eq_some_iff.mp hfound).1
  have hnone : clues.absentViolation? letters = none ↔ other.absentViolation? letters = none := by
    rw [absentViolation?_eq_none_iff, absentViolation?_eq_none_iff]
    simp only [Meets, h.absent_perm.mem_iff]
  cases hclues : clues.absentViolation? letters with
  | none => rw [hnone.mp hclues]
  | some violation =>
      obtain ⟨found, hother⟩ := Option.ne_none_iff_exists'.mp fun hfree => by
        rw [hnone.mpr hfree] at hclues
        cases hclues
      rw [hother, Option.map_some, Option.map_some, hkind clues hclues, hkind other hother]

theorem kind_violation? (h : clues.AgreesWith other) (word : String) :
    (clues.violation? word).map Violation.kind = (other.violation? word).map Violation.kind := by
  have hexact : clues.exactViolation? (capitals word) = other.exactViolation? (capitals word) := by
    rw [exactViolation?, exactViolation?, h.exact_eq]
  have hpresent :
      clues.presentViolation? (capitals word) = other.presentViolation? (capitals word) := by
    rw [presentViolation?, presentViolation?, h.present_eq]
  rw [violation?_eq, violation?_eq, h.length_eq, hexact, hpresent]
  split
  · simp only [Option.map_or, h.kind_absentViolation?]
  · rfl

theorem accepted_eq (h : clues.AgreesWith other) (words : List String) :
    (clues.screen words).accepted = (other.screen words).accepted := by
  have hfits : clues.fits = other.fits := by
    funext word
    rw [fits, fits, ← Option.isNone_map, h.kind_violation?, Option.isNone_map]
  rw [screen, screen, hfits]

theorem tally_eq (h : clues.AgreesWith other) (words : List String) :
    (clues.screen words).tally = (other.screen words).tally := by
  have hkinds : (clues.screen words).violations.map Violation.kind =
      (other.screen words).violations.map Violation.kind := by
    simp only [screen, List.map_filterMap, h.kind_violation?]
  have hcount (kind : Violation.Kind) :
      (clues.screen words).count kind = (other.screen words).count kind := by
    have hcounts := congrArg (List.countP fun other => decide (other = kind)) hkinds
    rwa [List.countP_map, List.countP_map] at hcounts
  simp only [Screening.tally, hcount]

end AgreesWith

/--
If no two lines of a text are about the same matter, its lines mean the same in any order, with
or without blank lines between them: all that changes is the order in which the letters ruled
out are named, and no word list is screened otherwise.
-/
theorem ofText_of_perm_heardLines {text other : String} (honce : SaysOnce (heardLines text))
    (horder : (heardLines other).Perm (heardLines text)) :
    (ofText other).exact = (ofText text).exact ∧
      (ofText other).present = (ofText text).present ∧
      (ofText other).length = (ofText text).length ∧
      (ofText other).seed? = (ofText text).seed? ∧
      (ofText other).absent.Perm (ofText text).absent ∧
      ∀ words, ((ofText other).screen words).accepted = ((ofText text).screen words).accepted ∧
        ((ofText other).screen words).tally = ((ofText text).screen words).tally := by
  have hagrees := ofText_agreesWith honce horder
  exact ⟨hagrees.exact_eq, hagrees.present_eq, hagrees.length_eq, hagrees.seed?_eq,
    hagrees.absent_perm, fun words => ⟨hagrees.accepted_eq words, hagrees.tally_eq words⟩⟩

theorem ofText_of_perm_heardLines_sample :
    let text := "o at 3\nNO S, T\n\nE AT 12\n a in word, not at 2\nLENGTH: 0\nlength: 6\nno r"
    let other := joinWith "\n" ["no r", "length: 6", "LENGTH: 0", " a in word, not at 2", "E AT 12",
      "", "NO S, T", "o at 3"]
    SaysOnce (heardLines text) ∧ (heardLines other).Perm (heardLines text) ∧
      (ofText text).absent = ['S', 'T', 'R'] ∧ (ofText other).absent = ['R', 'S', 'T'] ∧
      (ofText other).exact = (ofText text).exact ∧
      ∀ words, ((ofText other).screen words).accepted = ((ofText text).screen words).accepted ∧
        ((ofText other).screen words).tally = ((ofText text).screen words).tally := by
  intro text other
  have hread : (heardLines text).map read? =
      [some (.exact 'O' (some 3)), some (.absent ['S', 'T']), some (.exact 'E' (some 12)),
        some (.present 'A' [1]), some (.length (some 0)), some (.length (some 6)),
        some (.absent ['R'])] := by
    decide +kernel
  have honce : SaysOnce (heardLines text) := by
    refine ⟨fun position => ?_, fun letter => ?_, ?_⟩
    · have hplaces : position ≠ 2 ∨ position ≠ 11 := by omega
      rw [saidOnce_iff fun line letter => letterAt?_read?, hread]
      rcases hplaces with hplace | hplace <;> simp [letterAt?, hplace]
    · rw [saidOnce_iff fun line positions => barred?_read?, hread]
      simp [barred?]
    · rw [saidOnce_iff fun line length => measure?_read?, hread]
      simp [measure?]
  have horder : (heardLines other).Perm (heardLines text) :=
    perm_heardLines_joinWith (by decide +kernel)
  obtain ⟨hexact, -, -, -, -, hscreen⟩ := ofText_of_perm_heardLines honce horder
  exact ⟨honce, horder, by decide +kernel, by decide +kernel, hexact, hscreen⟩

end Clues

end WordHunt
