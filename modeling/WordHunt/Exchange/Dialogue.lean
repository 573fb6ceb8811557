import WordHunt.Duration
import WordHunt.Exchange.Message

/-!
A dialogue is a computation that talks to services: it sends requests one after the other,
waits between them, warns about what goes wrong, and goes on by what it hears.  A dialogue is
data.  It ends whatever it hears, because it is a well-founded tree, and it can be held with any
partner: with scripted replies, with an arbitrary function, or with a real network.
-/

namespace WordHunt

structure Attempt where
  number : Nat
  budget : Duration
  deriving DecidableEq, Repr

inductive Outcome where
  | response (response : Response)
  | timedOut
  | unreachable (reason : String)
  deriving DecidableEq, Repr

structure Reply where
  outcome : Outcome
  cancelled : Bool := false
  /-- How long the attempt had been under way when the reply was taken. -/
  elapsed : Duration := .zero
  deriving DecidableEq, Repr

/-- Whether an attempt is over: cancelled, or out of the time that it was given. -/
def Attempt.isOver (attempt : Attempt) (cancelled : Bool) (elapsed : Duration := .zero) : Bool :=
  cancelled || attempt.budget.nanos ≤ elapsed.nanos

inductive Dialogue (α : Type) where
  | done (value : α)
  | ask (request : Request) (attempt : Attempt) (next : Reply → Dialogue α)
  | pause (span : Duration) (next : Dialogue α)
  | warn (text : String) (next : Dialogue α)

namespace Dialogue

variable {α β : Type}

def bind : Dialogue α → (α → Dialogue β) → Dialogue β
  | .done value, f => f value
  | .ask request attempt next, f => .ask request attempt fun reply => (next reply).bind f
  | .pause span next, f => .pause span (next.bind f)
  | .warn text next, f => .warn text (next.bind f)

theorem bind_done (dialogue : Dialogue α) : dialogue.bind .done = dialogue := by
  induction dialogue with
  | done value => rfl
  | ask request attempt next ih => simp [bind, ih]
  | pause span next ih => simp [bind, ih]
  | warn text next ih => simp [bind, ih]

theorem bind_bind {γ : Type} (dialogue : Dialogue α) (f : α → Dialogue β) (g : β → Dialogue γ) :
    (dialogue.bind f).bind g = dialogue.bind fun value => (f value).bind g := by
  induction dialogue with
  | done value => rfl
  | ask request attempt next ih => simp [bind, ih]
  | pause span next ih => simp [bind, ih]
  | warn text next ih => simp [bind, ih]

instance : Monad Dialogue where
  pure := done
  bind := bind

end Dialogue

inductive Event where
  | request (request : Request) (attempt : Nat)
  | pause (span : Duration)
  | warn (text : String)
  deriving DecidableEq, Repr

structure Partner (σ : Type) where
  answer : σ → Request → Attempt → Reply × σ

def Partner.script (otherwise : Request → Reply) : Partner (List Reply) where
  answer replies request _ :=
    match replies with
    | [] => (otherwise request, [])
    | reply :: replies => (reply, replies)

structure Transcript (σ α : Type) where
  value : α
  events : List Event
  state : σ
  deriving DecidableEq, Repr

def Dialogue.hold {σ α : Type} (partner : Partner σ) (state : σ) :
    Dialogue α → Transcript σ α
  | .done value => ⟨value, [], state⟩
  | .ask request attempt next =>
      let (reply, state) := partner.answer state request attempt
      let rest := (next reply).hold partner state
      { rest with events := .request request attempt.number :: rest.events }
  | .pause span next =>
      let rest := next.hold partner state
      { rest with events := .pause span :: rest.events }
  | .warn text next =>
      let rest := next.hold partner state
      { rest with events := .warn text :: rest.events }

theorem Dialogue.hold_bind {σ α β : Type} (partner : Partner σ) (f : α → Dialogue β)
    (dialogue : Dialogue α) (state : σ) :
    (dialogue.bind f).hold partner state =
      let first := dialogue.hold partner state
      let second := (f first.value).hold partner first.state
      { second with events := first.events ++ second.events } := by
  induction dialogue generalizing state with
  | done value => rfl
  | ask request attempt next ih => simp [bind, hold, ih]
  | pause span next ih => simp [bind, hold, ih]
  | warn text next ih => simp [bind, hold, ih]

end WordHunt
