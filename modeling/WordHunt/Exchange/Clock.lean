import WordHunt.Exchange.Dialogue
import WordHunt.Text.Numeral

/-!
Dialogues held by a clock.  When an attempt begins, the moment is fixed at which its time is over.
A clock has a last moment, and an attempt that would outlast it cannot begin: the dialogue breaks
off before the request is sent, and nothing comes of it.
-/

namespace WordHunt

open Text

/-- A clock that counts nanoseconds, as the state of a partner shows it. -/
structure Clock (σ : Type) where
  last : Nat
  /-- What the clock shows when the next attempt begins, a pause before it included. -/
  now : σ → Nat
  now_le : ∀ state, now state ≤ last

namespace Clock

variable {σ : Type}

/-- The last nanosecond of a clock that counts its seconds in signed machine words. -/
def lastOfWords : Nat :=
  wordBound / 2 * 1000000000 - 1

def stoppedAt (reading : Nat) : Clock σ where
  last := lastOfWords
  now _ := min reading lastOfWords
  now_le _ := Nat.min_le_right ..

def deadline? (clock : Clock σ) (state : σ) (budget : Duration) : Option Nat :=
  let deadline := clock.now state + budget.nanos
  if deadline ≤ clock.last then some deadline else none

theorem deadline?_eq_some_iff (clock : Clock σ) (state : σ) (budget : Duration) (deadline : Nat) :
    clock.deadline? state budget = some deadline ↔
      deadline = clock.now state + budget.nanos ∧ deadline ≤ clock.last := by
  simp only [deadline?]
  split
  · simp only [Option.some.injEq]
    omega
  · simp only [reduceCtorEq, false_iff]
    omega

theorem isOver_eq_true_iff {clock : Clock σ} {state : σ} {attempt : Attempt} {deadline : Nat}
    (h : clock.deadline? state attempt.budget = some deadline) (cancelled : Bool) {moment : Nat}
    (hmoment : clock.now state ≤ moment) :
    attempt.isOver cancelled ⟨moment - clock.now state⟩ = true ↔
      cancelled = true ∨ deadline ≤ moment := by
  obtain ⟨rfl, -⟩ := (clock.deadline?_eq_some_iff ..).mp h
  simp only [Attempt.isOver, Bool.or_eq_true, decide_eq_true_eq]
  apply or_congr_right
  omega

end Clock

/-- Holds a dialogue as long as the clock can show the deadlines of its attempts. -/
def Dialogue.holdBy {σ α : Type} (clock : Clock σ) (partner : Partner σ) (state : σ) :
    Dialogue α → Transcript σ (Option α)
  | .done value => ⟨some value, [], state⟩
  | .ask request attempt next =>
      match clock.deadline? state attempt.budget with
      | none => ⟨none, [], state⟩
      | some _ =>
          let (reply, state) := partner.answer state request attempt
          let rest := (next reply).holdBy clock partner state
          { rest with events := .request request attempt.number :: rest.events }
  | .pause span next =>
      let rest := next.holdBy clock partner state
      { rest with events := .pause span :: rest.events }
  | .warn text next =>
      let rest := next.holdBy clock partner state
      { rest with events := .warn text :: rest.events }

end WordHunt
