import WordHunt.Clues.Reader
import WordHunt.Proofs.Screening

/-!
# Sorting words by their verdicts

The words of a list may be judged in parts, several at a time.  Once all verdicts are there, the
words are sorted one after the other, and a table counts the kinds of clues that were violated.
However the judging is shared out, this comes to the screening of the whole list: each word is
either accepted at its place or counted once, and a list of two halves is screened by halves.
-/

namespace WordHunt

open Text Violation

/-! ## Screening by halves -/

namespace Clues

variable (clues : Clues) (first second words : List String) (kind : Kind)

theorem accepted_append :
    (clues.screen (first ++ second)).accepted =
      (clues.screen first).accepted ++ (clues.screen second).accepted := by
  simp [screen]

theorem count_append :
    (clues.screen (first ++ second)).count kind =
      (clues.screen first).count kind + (clues.screen second).count kind := by
  simp [screen, Screening.count]

/-- How many of the words violate a clue of a kind, and none that is checked before it. -/
def violators : Nat :=
  words.countP fun word => (clues.violation? word).any (·.kind = kind)

theorem count_screen : (clues.screen words).count kind = clues.violators words kind := by
  unfold Screening.count violators screen
  rw [List.countP_filterMap]
  congr
  funext word
  cases clues.violation? word <;> simp

end Clues

/-! ## The tally -/

namespace Violation.Kind

theorem name_inj {kind other : Kind} : kind.name = other.name ↔ kind = other := by
  cases kind <;> cases other <;> decide

theorem pairwise_name_all : all.Pairwise fun kind other => compare kind.name other.name = .lt := by
  decide

end Violation.Kind

namespace Screening

variable (screening : Screening)

theorem pairwise_name_tally :
    screening.tally.Pairwise fun entry other =>
      compare entry.1.name other.1.name = .lt := by
  apply List.Pairwise.filter
  rw [List.pairwise_map]
  exact Violation.Kind.pairwise_name_all

end Screening

/-! ## Sorting one word after the other -/

theorem toList_eq_of_ordered {table : Std.ExtTreeMap String Nat} {entries : List (String × Nat)}
    (hordered : entries.Pairwise fun entry other => compare entry.1 other.1 = .lt)
    (hmem : ∀ name count, (name, count) ∈ entries ↔ table[name]? = some count) :
    table.toList = entries := by
  have hirrefl (name : String) : compare name name ≠ .lt := by simp [Std.ReflCmp.compare_self]
  have hnodup {list : List (String × Nat)}
      (h : list.Pairwise fun entry other => compare entry.1 other.1 = .lt) : list.Nodup := by
    apply h.imp
    rintro entry _ hlt rfl
    exact hirrefl _ hlt
  apply List.Perm.eq_of_pairwise _ table.ordered_keys_toList hordered
  · rw [List.perm_ext_iff_of_nodup (hnodup table.ordered_keys_toList) (hnodup hordered)]
    rintro ⟨name, count⟩
    rw [Std.ExtTreeMap.mem_toList_iff_getElem?_eq_some, hmem]
  · intro entry other _ _ hlt hgt
    exact absurd (Std.TransCmp.lt_trans hlt hgt) (hirrefl _)

structure Sorting where
  accepted : List String := []
  rejected : Std.ExtTreeMap String Nat := ∅

namespace Sorting

def put (sorting : Sorting) : String × Option Violation → Sorting
  | (word, none) => { sorting with accepted := sorting.accepted ++ [upperCase word] }
  | (_, some violation) =>
      { sorting with
        rejected := sorting.rejected.alter violation.kind.name fun count =>
          some (count.getD 0 + 1) }

def ofVerdicts (words : List String) (verdicts : List (Option Violation)) : Sorting :=
  (words.zip verdicts).foldl put {}

/-- The words sorted so far are those that a screening accepted or turned away. -/
structure Matches (sorting : Sorting) (screening : Screening) : Prop where
  accepted : sorting.accepted = screening.accepted
  rejected : ∀ name count, sorting.rejected[name]? = some count ↔
    ∃ kind : Kind, kind.name = name ∧ 0 < count ∧ screening.count kind = count

variable {clues : Clues} {sorting : Sorting} {words : List String}

theorem Matches.getD_rejected {screening : Screening} (h : sorting.Matches screening)
    (kind : Kind) : sorting.rejected[kind.name]?.getD 0 = screening.count kind := by
  cases hget : sorting.rejected[kind.name]? with
  | none =>
      by_contra hne
      have hsome : sorting.rejected[kind.name]? = some (screening.count kind) :=
        (h.rejected _ _).mpr ⟨kind, rfl, Nat.pos_of_ne_zero (Ne.symm hne), rfl⟩
      rw [hget] at hsome
      contradiction
  | some count =>
      obtain ⟨other, hname, -, hcount⟩ := (h.rejected _ _).mp hget
      rw [Kind.name_inj] at hname
      subst hname
      exact hcount.symm

theorem Matches.put (h : sorting.Matches (clues.screen words)) (word : String) :
    (sorting.put (word, clues.violation? word)).Matches (clues.screen (words ++ [word])) := by
  cases hword : clues.violation? word with
  | none =>
      constructor
      · rw [clues.accepted_append, ← h.accepted]
        simp [Sorting.put, Clues.screen, Clues.fits, hword]
      · intro name count
        simp [Sorting.put, clues.count_append, h.rejected, clues.count_screen [word],
          Clues.violators, hword]
  | some violation =>
      have hcount (kind : Kind) : (clues.screen (words ++ [word])).count kind =
          (clues.screen words).count kind + if violation.kind = kind then 1 else 0 := by
        rw [clues.count_append, clues.count_screen [word]]
        simp [Clues.violators, List.countP_cons, hword]
      constructor
      · rw [clues.accepted_append, ← h.accepted]
        simp [Sorting.put, Clues.screen, Clues.fits, hword]
      · intro name count
        simp only [Sorting.put, Std.ExtTreeMap.getElem?_alter, compare_eq_iff_eq, hcount]
        by_cases hname : violation.kind.name = name
        · subst hname
          simp only [if_true, h.getD_rejected, Option.some_inj, Kind.name_inj]
          constructor
          · rintro rfl
            exact ⟨violation.kind, rfl, by omega, by simp⟩
          · rintro ⟨kind, rfl, -, hkind⟩
            simpa using hkind
        · rw [if_neg hname, h.rejected]
          refine exists_congr fun kind => and_congr_right fun hkind => ?_
          have hother : violation.kind ≠ kind := by
            rintro rfl
            exact hname hkind
          simp [hother]

theorem matches_foldl_put (h : sorting.Matches (clues.screen words)) (more : List String) :
    ((more.zip (more.map clues.violation?)).foldl Sorting.put sorting).Matches
      (clues.screen (words ++ more)) := by
  induction more generalizing sorting words with
  | nil => simpa using h
  | cons word more ih => simpa using ih (h.put word)

theorem matches_ofVerdicts (clues : Clues) (words : List String) :
    (ofVerdicts words (words.map clues.violation?)).Matches (clues.screen words) := by
  have hstart : ({} : Sorting).Matches (clues.screen []) := by
    constructor
    · rfl
    · intro name count
      simp [Clues.count_screen, Clues.violators]
      omega
  simpa [ofVerdicts] using matches_foldl_put hstart words

theorem Matches.toList_rejected {screening : Screening} (h : sorting.Matches screening) :
    sorting.rejected.toList = screening.tally.map fun (kind, count) => (kind.name, count) := by
  apply toList_eq_of_ordered
  · rw [List.pairwise_map]
    exact screening.pairwise_name_tally
  · intro name count
    rw [h.rejected]
    simp only [List.mem_map, Prod.exists, Screening.mem_tally_iff, Prod.mk.injEq]
    constructor
    · rintro ⟨kind, _, ⟨hpos, hcount⟩, hname, rfl⟩
      exact ⟨kind, hname, hpos, hcount⟩
    · rintro ⟨kind, hname, hpos, hcount⟩
      exact ⟨kind, count, ⟨hpos, hcount⟩, hname, rfl⟩

end Sorting

/-! ## Judging in parts -/

inductive Shares where
  | part (words : List String)
  | split (first second : Shares)

namespace Shares

def words : Shares → List String
  | part words => words
  | split first second => first.words ++ second.words

def verdicts (clues : Clues) : Shares → List (Option Violation)
  | part words => words.map clues.violation?
  | split first second => first.verdicts clues ++ second.verdicts clues

theorem verdicts_eq (clues : Clues) (shares : Shares) :
    shares.verdicts clues = shares.words.map clues.violation? := by
  induction shares with
  | part words => rfl
  | split first second ihFirst ihSecond =>
      simp [verdicts, words, ihFirst, ihSecond]

end Shares

/-! ## The screening of a list -/

/-- A screening accepts or counts every word of a list once. -/
structure Divides (clues : Clues) (words : List String) (screening : Screening) : Prop where
  accepted : screening.accepted =
    (words.filter fun word => clues.violation? word = none).map upperCase
  tally : ∀ kind count, (kind, count) ∈ screening.tally ↔
    0 < count ∧ clues.violators words kind = count
  kinds : (screening.tally.map Prod.fst).Nodup
  total : screening.rejected = (screening.tally.map Prod.snd).sum
  whole : screening.accepted.length + screening.rejected = words.length

theorem Clues.divides_screen (clues : Clues) (words : List String) :
    Divides clues words (clues.screen words) where
  accepted := by
    have hfits (word : String) : clues.fits word = decide (clues.violation? word = none) := by
      unfold fits
      cases clues.violation? word <;> rfl
    simp [screen, funext hfits]
  tally kind count := by
    rw [Screening.mem_tally_iff, count_screen]
  kinds := by
    apply List.pairwise_map.mpr
    apply (clues.screen words).pairwise_name_tally.imp
    rintro entry other hlt heq
    simp [heq, Std.ReflCmp.compare_self] at hlt
  total := (clues.screen words).sum_tally.symm
  whole := clues.length_accepted_add_rejected words

/--
A screening accepts or counts every word once, it screens a list by its halves, and it is what comes
of sorting the words one after the other, however the judging was shared out.
-/
theorem Clues.screen_divides (clues : Clues) :
    (∀ words, Divides clues words (clues.screen words)) ∧
      (∀ first second,
        (clues.screen (first ++ second)).accepted =
            (clues.screen first).accepted ++ (clues.screen second).accepted ∧
          ∀ kind, (clues.screen (first ++ second)).count kind =
            (clues.screen first).count kind + (clues.screen second).count kind) ∧
      ∀ shares : Shares,
        (Sorting.ofVerdicts shares.words (shares.verdicts clues)).accepted =
            (clues.screen shares.words).accepted ∧
          (Sorting.ofVerdicts shares.words (shares.verdicts clues)).rejected.toList =
            (clues.screen shares.words).tally.map fun (kind, count) => (kind.name, count) := by
  refine ⟨clues.divides_screen, ?_, ?_⟩
  · intro first second
    exact ⟨clues.accepted_append first second, clues.count_append first second⟩
  · intro shares
    have hmatches := Sorting.matches_ofVerdicts clues shares.words
    rw [shares.verdicts_eq]
    exact ⟨hmatches.accepted, hmatches.toList_rejected⟩

example :
    let clues := Clues.ofText "O AT 3\nA IN WORD\nNO S, T, R, E"
    let screening := clues.screen ["cloak", "STORE", "GROAN", "KOALA", "BLOOM", "GLOAM", "TOO"]
    screening.accepted = ["CLOAK", "GLOAM"] ∧
      screening.tally = [(.absent, 2), (.exact, 1), (.length, 1), (.present, 1)] := by
  decide +kernel

end WordHunt
