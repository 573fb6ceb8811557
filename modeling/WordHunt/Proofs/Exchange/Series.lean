import WordHunt.Exchange.Dialogue

/-!
# Dialogues held one after the other

A series is a dialogue for every number.  Its turns are held in the order of their numbers, each
with the partner as the turn before left it.  Attempts at a request and visits to the pages of a
catalogue are such series.
-/

namespace WordHunt

variable {σ α β : Type}

namespace Dialogue

variable (partner : Partner σ) (state : σ)

theorem hold_pure (value : α) :
    (pure value : Dialogue α).hold partner state = ⟨value, [], state⟩ := rfl

@[simp] theorem hold_done (value : α) :
    (Dialogue.done value).hold partner state = ⟨value, [], state⟩ := rfl

theorem hold_seq (dialogue : Dialogue α) (f : α → Dialogue β) :
    (dialogue >>= f).hold partner state =
      let first := dialogue.hold partner state
      let second := (f first.value).hold partner first.state
      { second with events := first.events ++ second.events } :=
  hold_bind partner f dialogue state

/-- The attempts of a dialogue, each with the state in which the partner is when it begins. -/
def begun : Dialogue α → σ → List (σ × Attempt)
  | .done _, _ => []
  | .ask request attempt next, state =>
      let (reply, after) := partner.answer state request attempt
      (state, attempt) :: begun (next reply) after
  | .pause _ next, state => begun next state
  | .warn _ next, state => begun next state

end Dialogue

def Event.asked? : Event → Option (Request × Nat)
  | .request message number => some (message, number)
  | .pause _ | .warn _ => none

def asked (events : List Event) : List (Request × Nat) :=
  events.filterMap Event.asked?

@[simp] theorem asked_append (first second : List Event) :
    asked (first ++ second) = asked first ++ asked second :=
  List.filterMap_append

theorem asked_flatMap {ι : Type} (events : ι → List Event) (series : List ι) :
    asked (series.flatMap events) = series.flatMap fun i => asked (events i) :=
  List.filterMap_flatMap

namespace Partner

variable (partner : Partner σ) (series : Nat → Dialogue α)

def stateAfter : (number count : Nat) → σ → σ
  | _, 0, state => state
  | number, count + 1, state =>
      stateAfter (number + 1) count ((series number).hold partner state).state

def turn (first : Nat) (state : σ) (number : Nat) : Transcript σ α :=
  (series number).hold partner (partner.stateAfter series first (number - first) state)

@[simp] theorem turn_first (first : Nat) (state : σ) :
    partner.turn series first state first = (series first).hold partner state := by
  simp [turn, stateAfter]

def stateBefore (first : Nat) (state : σ) (number : Nat) : σ :=
  partner.stateAfter series first (number - first) state

@[simp] theorem stateBefore_first (first : Nat) (state : σ) :
    partner.stateBefore series first state first = state := by
  simp [stateBefore, stateAfter]

theorem stateBefore_of_lt {first number : Nat} (h : first < number) (state : σ) :
    partner.stateBefore series first state number =
      partner.stateBefore series (first + 1) ((series first).hold partner state).state number := by
  have hcount : number - first = number - (first + 1) + 1 := by omega
  rw [stateBefore, stateBefore, hcount, stateAfter]

theorem turn_of_lt {first number : Nat} (h : first < number) (state : σ) :
    partner.turn series first state number =
      partner.turn series (first + 1) (partner.turn series first state first).state number := by
  rw [turn_first]
  exact congrArg ((series number).hold partner) (partner.stateBefore_of_lt series h state)

end Partner

end WordHunt
