import WordHunt.Proofs.Exchange.Composition
import WordHunt.Proofs.Hunt.Tasks

/-!
# How hunts are put together

Hunts are put together from fetches and look-ups, with pauses and warnings between them.  So a
compositional property is one of a hunt if these have it, and nothing else in the hunt matters.
-/

namespace WordHunt

variable {P : ∀ {α : Type}, Dialogue α → Prop} (hP : Dialogue.Compositional P)
include hP

theorem Scribe.write_of_fetch (scribe : Scribe) (text : String)
    (hfetch : P (scribe.policy.fetch (scribe.request text))) : P (scribe.write text) := by
  rw [write]
  split
  · exact hP.done _
  · split
    · exact hP.done _
    · refine hP.seq hfetch fun fetched => ?_
      cases fetched <;> exact hP.done _

namespace Harvester

variable (harvester : Harvester) (seed : Seed) (length : Nat)
  (hfetch : ∀ page, P (harvester.fetchPage seed length page))
include hfetch

theorem harvestFrom_of_fetch (harvest : Harvest) (page : Nat) :
    P (harvester.harvestFrom seed length harvest page) := by
  have hwait {α : Type} (page : Nat) {next : Dialogue α} (hnext : P next) :
      P (harvester.waitFor page next) := by
    rw [waitFor]
    split
    · exact hP.pause _ hnext
    · exact hnext
  induction harvest, page using harvestFrom.induct length with
  | case1 harvest page ih =>
      rw [harvestFrom]
      apply hwait
      refine hP.seq (hfetch _) fun fetched => ?_
      cases fetched with
      | error failure =>
          dsimp only
          split
          · exact hP.done _
          · split
            · exact hP.done _
            · exact hP.warn _ (hP.done _)
      | ok response =>
          dsimp only
          split
          · exact hP.done _
          · next next hnext => exact ih response next hnext

end Harvester

theorem Dictionary.check_of_lookup (dictionary : Dictionary)
    (hlookup : ∀ word, P (dictionary.lookup word)) (verdicts : Verdicts) (word : String)
    (length : Nat) : P (dictionary.check verdicts word length) := by
  rw [check]
  split
  · exact hP.done _
  · refine hP.seq ?_ fun verdict => hP.done _
    rw [decideOn]
    split
    · exact hlookup word
    · exact hP.done _

namespace Hunter

variable (hunter : Hunter)

theorem lookUpFrom_of_lookup (dictionary : Dictionary)
    (hlookup : ∀ word, P (dictionary.lookup word)) (length : Nat) (asked : Bool)
    (verdicts : Verdicts) (words : List String) :
    P (hunter.lookUpFrom dictionary length asked verdicts words) := by
  induction words generalizing asked verdicts with
  | nil => exact hP.done _
  | cons word words ih =>
      have hcheck := dictionary.check_of_lookup hP hlookup verdicts word length
      have hnext := hP.seq hcheck fun checked =>
        hP.seq (ih checked.1.isFresh checked.2) fun rest =>
          hP.done (rest.withWord word checked.1)
      cases asked with
      | false => exact hnext
      | true => exact hP.pause _ hnext

theorem finish_of_lookup
    (hlookup : ∀ dictionary word, hunter.dictionary = some dictionary →
      P (dictionary.lookup word)) (gathered : Gathered) : P (hunter.finish gathered) := by
  cases gathered with
  | ended ends => exact hP.done _
  | kept clues seed harvest =>
      refine hP.seq ?_ fun lookedUp => hP.done _
      rw [lookUp]
      split
      · next dictionary hsome =>
          exact hunter.lookUpFrom_of_lookup hP dictionary (fun word => hlookup _ word hsome) ..
      · exact hP.done _

variable (hpage : ∀ seed length page, P (hunter.harvester.fetchPage seed length page))
include hpage

theorem gatherBy_of_fetch (clues : Clues) : P (hunter.gatherBy clues) := by
  rw [gatherBy]
  split
  · exact hP.warn _ (hP.done _)
  · refine hP.seq ?_ fun harvested => hP.done _
    exact hunter.harvester.harvestFrom_of_fetch hP _ _ (hpage _ _) {} 1

theorem gather_of_fetch (task : Task)
    (hpost : ∀ scribe text, hunter.scribe = some scribe → task = .byWords text →
      P (scribe.policy.fetch (scribe.request text))) : P (hunter.gather task) := by
  have hunderstand : P (hunter.understand task) := by
    cases task with
    | byLines text => exact hP.done _
    | byClues clues => exact hP.done _
    | byWords text =>
        rw [understand]
        split
        · exact hP.done _
        · next scribe hsome =>
            refine hP.seq ?_ fun written => hP.done _
            exact scribe.write_of_fetch hP text (hpost scribe text hsome rfl)
  refine hP.seq hunderstand fun understood => ?_
  cases understood with
  | error failure => exact hP.done _
  | ok clues => exact hunter.gatherBy_of_fetch hP hpage clues

theorem pursue_of_fetch (task : Task)
    (hpost : ∀ scribe text, hunter.scribe = some scribe → task = .byWords text →
      P (scribe.policy.fetch (scribe.request text)))
    (hlookup : ∀ dictionary word, hunter.dictionary = some dictionary →
      P (dictionary.lookup word)) : P (hunter.pursue task) := by
  rw [pursue_eq]
  refine hP.seq (hunter.gather_of_fetch hP hpage task hpost) fun gathered => ?_
  exact hunter.finish_of_lookup hP hlookup gathered

end Hunter

end WordHunt
