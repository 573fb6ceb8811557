import WordHunt.Proofs.Exchange.Late
import WordHunt.Proofs.Hunt.Composition
import WordHunt.Proofs.Hunt.Report

/-!
# Late replies to a hunter

Everything that talks to a service disregards late replies: fetches, harvests, scribes,
dictionaries and whole hunts, one after the other.  So what comes too late has no influence on
the outcome, on what is asked, warned and waited, nor on what is remembered.
-/

namespace WordHunt

open Dialogue

/-! ## Dictionaries -/

namespace Dictionary

/-- Decides on words one after the other, each with what is remembered by then. -/
def checkAll (dictionary : Dictionary) :
    Verdicts → List Query → Dialogue (List Verdict × Verdicts)
  | verdicts, [] => .done ([], verdicts)
  | verdicts, (word, length) :: queries => do
      let (verdict, verdicts) ← dictionary.check verdicts word length
      let (rest, verdicts) ← dictionary.checkAll verdicts queries
      return (verdict :: rest, verdicts)

theorem judge_eq {attempt : Attempt} {first second : Reply} (h : first.SameFor attempt second) :
    judge attempt first = judge attempt second := by
  rw [judge, judge, ← h.isOver_eq]
  split
  · rfl
  next hover => rw [h.outcome_eq (by simpa using hover)]

variable (dictionary : Dictionary)

theorem disregardsLate_lookup (word : String) : (dictionary.lookup word).DisregardsLate := by
  rw [lookup]
  refine ⟨fun first second hsame => by simp only [judge_eq hsame], fun reply => ?_⟩
  dsimp only
  split <;> trivial

theorem disregardsLate_checkAll (verdicts : Verdicts) (queries : List Query) :
    (dictionary.checkAll verdicts queries).DisregardsLate := by
  induction queries generalizing verdicts with
  | nil => trivial
  | cons query queries ih =>
      have hcheck := dictionary.check_of_lookup compositional_disregardsLate
        dictionary.disregardsLate_lookup verdicts query.1 query.2
      refine hcheck.seq fun checked => ?_
      exact (ih checked.2).seq fun rest => compositional_disregardsLate.done _

end Dictionary

/-! ## Hunts -/

namespace Hunter

variable (hunter : Hunter)

theorem disregardsLate_pursue (task : Task) : (hunter.pursue task).DisregardsLate := by
  apply hunter.pursue_of_fetch compositional_disregardsLate
  · intro seed length page
    exact hunter.harvester.policy.disregardsLate_fetchWith ..
  · intro scribe text _ _
    exact scribe.policy.disregardsLate_fetchWith ..
  · intro dictionary word _
    exact dictionary.disregardsLate_lookup word

theorem disregardsLate_pursueAll (tasks : List Task) :
    (hunter.pursueAll tasks).DisregardsLate := by
  induction tasks generalizing hunter with
  | nil => trivial
  | cons task tasks ih =>
      refine (hunter.disregardsLate_pursue task).seq fun pursued => ?_
      exact (ih pursued.2).seq fun rest => compositional_disregardsLate.done _

end Hunter

/-! ## All that talks to a service -/

inductive Operation where
  | fetch (policy : RetryPolicy) (classify : Response → Disposition) (request : Request)
  | harvest (harvester : Harvester) (seed : Seed) (length : Nat)
  | write (scribe : Scribe) (text : String)
  | checkAll (dictionary : Dictionary) (verdicts : Verdicts) (queries : List Query)
  | pursueAll (hunter : Hunter) (tasks : List Task)

namespace Operation

/-- What an operation yields, what is remembered then included. -/
def Yield : Operation → Type
  | .fetch .. => Except Failure Response
  | .harvest .. => Except Failure Harvest
  | .write .. => Except Failure String
  | .checkAll .. => List Verdict × Verdicts
  | .pursueAll .. => List (Except Failure Report) × Hunter

def dialogue : (operation : Operation) → Dialogue operation.Yield
  | .fetch policy classify request => policy.fetchWith classify request
  | .harvest harvester seed length => harvester.harvest seed length
  | .write scribe text => scribe.write text
  | .checkAll dictionary verdicts queries => dictionary.checkAll verdicts queries
  | .pursueAll hunter tasks => hunter.pursueAll tasks

theorem disregardsLate_dialogue (operation : Operation) :
    operation.dialogue.DisregardsLate := by
  cases operation with
  | fetch policy classify request => exact policy.disregardsLate_fetchWith classify request
  | harvest harvester seed length =>
      apply harvester.harvestFrom_of_fetch compositional_disregardsLate
      intro page
      exact harvester.policy.disregardsLate_fetchWith ..
  | write scribe text =>
      apply scribe.write_of_fetch compositional_disregardsLate
      exact scribe.policy.disregardsLate_fetchWith ..
  | checkAll dictionary verdicts queries => exact dictionary.disregardsLate_checkAll _ queries
  | pursueAll hunter tasks => exact hunter.disregardsLate_pursueAll tasks

/--
Two scripts of the same length may differ in what comes to attempts that are over, because they
were cancelled or had no time, and in replies that are not taken: the yield, the events and the
number of replies left are the same.
-/
theorem hold_eq_of_sameFor (operation : Operation) (otherwise : Request → Reply)
    {replies others : List Reply} (hlength : replies.length = others.length)
    (hsame : ∀ entry ∈ (operation.dialogue.exchanges (.script otherwise) replies).zip others,
      entry.1.reply.SameFor entry.1.attempt entry.2) :
    (operation.dialogue.hold (.script otherwise) replies).value =
        (operation.dialogue.hold (.script otherwise) others).value ∧
      (operation.dialogue.hold (.script otherwise) replies).events =
        (operation.dialogue.hold (.script otherwise) others).events ∧
      (operation.dialogue.hold (.script otherwise) replies).state.length =
        (operation.dialogue.hold (.script otherwise) others).state.length :=
  operation.disregardsLate_dialogue.hold_eq otherwise hlength hsame

theorem hold_eq_of_sameFor_sample :
    let operation : Operation := .pursueAll .sample [.byLines "C AT 1"]
    let otherwise := fun _ : Request => ({ outcome := .timedOut } : Reply)
    let page : Reply := { outcome := .response ⟨200, "CR<b>A</b>NE BRICK CHAIR"⟩ }
    let replies : List Reply := [page, { outcome := .response ⟨404, ""⟩, cancelled := true }]
    let others : List Reply := [page, { outcome := .unreachable "lost", cancelled := true }]
    replies ≠ others ∧
      (operation.dialogue.hold (.script otherwise) replies).value =
        (operation.dialogue.hold (.script otherwise) others).value := by
  intro operation otherwise page replies others
  have hlength : replies.length = others.length := rfl
  exact ⟨by decide, (operation.hold_eq_of_sameFor otherwise hlength (by decide +kernel)).1⟩

end Operation

end WordHunt
