import WordHunt.Proofs.Exchange.Attempts

/-!
# What is asked and what is replied

The exchanges of a dialogue are its requests, each with the attempt that sent it and the reply
that came.  Those of a dialogue after another follow the exchanges of the first.  With a script
each exchange takes one reply as long as any is left, and a fetch sends one request again and
again until a reply settles it or no attempt is left.
-/

namespace WordHunt

variable {σ α β : Type}

structure Exchange where
  request : Request
  attempt : Attempt
  reply : Reply
  deriving DecidableEq, Repr

def Exchange.asked (exchange : Exchange) : Request × Nat :=
  (exchange.request, exchange.attempt.number)

namespace Dialogue

def exchanges (partner : Partner σ) (state : σ) : Dialogue α → List Exchange
  | .done _ => []
  | .ask request attempt next =>
      let (reply, state) := partner.answer state request attempt
      ⟨request, attempt, reply⟩ :: (next reply).exchanges partner state
  | .pause _ next => next.exchanges partner state
  | .warn _ next => next.exchanges partner state

section

variable (partner : Partner σ) (state : σ)

@[simp] theorem exchanges_done (value : α) :
    (Dialogue.done value).exchanges partner state = [] := rfl

theorem exchanges_pure (value : α) :
    (pure value : Dialogue α).exchanges partner state = [] := rfl

theorem asked_events_hold (dialogue : Dialogue α) :
    asked (dialogue.hold partner state).events =
      (dialogue.exchanges partner state).map Exchange.asked := by
  induction dialogue generalizing state with
  | done value => rfl
  | ask request attempt next ih =>
      have hrest := ih (partner.answer state request attempt).1
        (partner.answer state request attempt).2
      simp only [hold, exchanges, List.map_cons, ← hrest]
      rfl
  | pause span next ih => exact ih state
  | warn text next ih => exact ih state

theorem exchanges_seq (dialogue : Dialogue α) (f : α → Dialogue β) :
    (dialogue >>= f).exchanges partner state =
      dialogue.exchanges partner state ++
        (f (dialogue.hold partner state).value).exchanges partner
          (dialogue.hold partner state).state := by
  change (dialogue.bind f).exchanges partner state = _
  induction dialogue generalizing state with
  | done value => rfl
  | ask request attempt next ih => simp [bind, exchanges, hold, ih]
  | pause span next ih => exact ih state
  | warn text next ih => exact ih state

theorem value_eq_of_replies_eq {τ : Type} (other : Partner τ) (start : τ)
    (dialogue : Dialogue α)
    (h : (dialogue.exchanges partner state).map Exchange.reply =
      (dialogue.exchanges other start).map Exchange.reply) :
    (dialogue.hold partner state).value = (dialogue.hold other start).value := by
  induction dialogue generalizing state start with
  | done value => rfl
  | ask request attempt next ih =>
      simp only [exchanges, List.map_cons, List.cons.injEq] at h
      obtain ⟨hreply, hrest⟩ := h
      simp only [hold, ← hreply] at hrest ⊢
      exact ih _ _ _ hrest
  | pause span next ih => exact ih _ _ h
  | warn text next ih => exact ih _ _ h

end

/-! ## Scripts -/

variable (otherwise : Request → Reply)

theorem hold_ask_script (request : Request) (attempt : Attempt) (next : Reply → Dialogue α)
    (reply : Reply) (replies : List Reply) :
    (ask request attempt next).hold (.script otherwise) (reply :: replies) =
      let rest := (next reply).hold (.script otherwise) replies
      { rest with events := .request request attempt.number :: rest.events } := rfl

theorem exchanges_ask_script (request : Request) (attempt : Attempt) (next : Reply → Dialogue α)
    (reply : Reply) (replies : List Reply) :
    (ask request attempt next).exchanges (.script otherwise) (reply :: replies) =
      ⟨request, attempt, reply⟩ :: (next reply).exchanges (.script otherwise) replies := rfl

theorem state_hold_script (dialogue : Dialogue α) (replies : List Reply) :
    (dialogue.hold (.script otherwise) replies).state =
      replies.drop (dialogue.exchanges (.script otherwise) replies).length := by
  induction dialogue generalizing replies with
  | done value => rfl
  | ask request attempt next ih =>
      cases replies with
      | nil =>
          have hrest := ih (otherwise request) []
          rw [List.drop_nil] at hrest ⊢
          exact hrest
      | cons reply replies => exact ih reply replies
  | pause span next ih => exact ih replies
  | warn text next ih => exact ih replies

theorem reply_exchanges_script (dialogue : Dialogue α) (replies : List Reply) :
    ((dialogue.exchanges (.script otherwise) replies).map Exchange.reply).take replies.length =
      replies.take (dialogue.exchanges (.script otherwise) replies).length := by
  induction dialogue generalizing replies with
  | done value => simp
  | ask request attempt next ih =>
      cases replies with
      | nil => simp
      | cons reply replies =>
          exact congrArg (reply :: ·) (ih reply replies)
  | pause span next ih => exact ih replies
  | warn text next ih => exact ih replies

end Dialogue

/-! ## Fetches -/

/--
The exchanges of attempts at a request and what they come to, the first attempt being `number` and
`left` more allowed after it: one that does not settle the fetch is followed by another one,
unless none is left.
-/
inductive Attempts (classify : Response → Disposition) (request : Request) (budget : Duration) :
    (left number : Nat) → List Exchange → Except Failure Response → Prop where
  | last {left number : Nat} {reply : Reply} {value : Except Failure Response}
      (ends : reply.Settles classify budget ∨ left = 0)
      (value_eq : value = ((⟨number, budget⟩ : Attempt).result classify reply).conclusion request
        ⟨number, budget⟩) :
      Attempts classify request budget left number [⟨request, ⟨number, budget⟩, reply⟩] value
  | again {left number : Nat} {reply : Reply} {rest : List Exchange}
      {value : Except Failure Response} (unsettled : ¬ reply.Settles classify budget)
      (attempts : Attempts classify request budget left (number + 1) rest value) :
      Attempts classify request budget (left + 1) number
        (⟨request, ⟨number, budget⟩, reply⟩ :: rest) value

theorem attempts_attemptFrom (classify : Response → Disposition) (request : Request)
    (budget : Duration) (partner : Partner σ) (left number : Nat) (backoff : Duration)
    (state : σ) :
    Attempts classify request budget left number
      ((attemptFrom classify request budget left number backoff).exchanges partner state)
      ((attemptFrom classify request budget left number backoff).hold partner state).value := by
  induction left generalizing number backoff state with
  | zero =>
      obtain ⟨next, hnext, hdone, -⟩ := exists_attemptFrom_eq classify request budget 0 number backoff
      simp only [hnext, Dialogue.exchanges, Dialogue.hold, hdone _ (.inr rfl)]
      exact .last (.inr rfl) rfl
  | succ left ih =>
      obtain ⟨next, hnext, hdone, hgoesOn⟩ :=
        exists_attemptFrom_eq classify request budget (left + 1) number backoff
      simp only [hnext, Dialogue.exchanges, Dialogue.hold]
      by_cases hsettles : (partner.answer state request ⟨number, budget⟩).1.Settles classify budget
      · rw [hdone _ (.inl hsettles)]
        exact .last (.inl hsettles) rfl
      · obtain ⟨cause, -, hrest⟩ := hgoesOn left _ rfl hsettles
        rw [hrest]
        exact .again hsettles (ih ..)

namespace Attempts

variable {classify : Response → Disposition} {request : Request} {budget : Duration}
  {left number : Nat} {exchanges : List Exchange} {value : Except Failure Response}

theorem ne_nil (h : Attempts classify request budget left number exchanges value) :
    exchanges ≠ [] := by
  cases h <;> simp

theorem length_le (h : Attempts classify request budget left number exchanges value) :
    exchanges.length ≤ left + 1 := by
  induction h with
  | last => simp
  | again _ _ ih => simpa using ih

theorem asked_eq (h : Attempts classify request budget left number exchanges value) :
    exchanges.map Exchange.asked = (List.range' number exchanges.length).map (request, ·) := by
  induction h with
  | last => rfl
  | again _ _ ih =>
      rw [List.map_cons, List.length_cons, List.range'_succ, List.map_cons, ih]
      rfl

theorem not_settles (h : Attempts classify request budget left number exchanges value)
    {exchange : Exchange} (hmem : exchange ∈ exchanges.dropLast) :
    ¬ exchange.reply.Settles classify budget := by
  induction h with
  | last => simp at hmem
  | again unsettled attempts ih =>
      rw [List.dropLast_cons_of_ne_nil attempts.ne_nil, List.mem_cons] at hmem
      rcases hmem with rfl | hmem
      · exact unsettled
      · exact ih hmem

theorem value_eq_ok_iff (h : Attempts classify request budget left number exchanges value)
    (response : Response) :
    value = .ok response ↔ ∃ exchange ∈ exchanges.getLast?,
      exchange.reply.Brings budget response ∧ classify response = .success := by
  induction h with
  | last ends value_eq =>
      rw [value_eq, Result.conclusion_eq_ok_iff, Attempt.result_eq_success_iff]
      simp
  | again unsettled attempts ih =>
      rw [ih, List.getLast?_cons_of_ne_nil attempts.ne_nil]

end Attempts

/--
The exchanges of one fetch by a policy: the same request over and over, at least once and at most
as often as the policy allows, and never again after a reply that settles it.
-/
structure RetryPolicy.Insists (policy : RetryPolicy) (request : Request)
    (exchanges : List Exchange) : Prop where
  ne_nil : exchanges ≠ []
  length_le : exchanges.length ≤ policy.limit
  asked : exchanges.map Exchange.asked = (List.range' 1 exchanges.length).map (request, ·)
  not_settles : ∀ exchange ∈ exchanges.dropLast,
    ¬ exchange.reply.Settles Response.disposition policy.attemptBudget

namespace RetryPolicy

variable (policy : RetryPolicy) (request : Request) (partner : Partner σ) (state : σ)

theorem attempts_fetch :
    Attempts Response.disposition request policy.attemptBudget (policy.maxAttempts - 1) 1
      ((policy.fetch request).exchanges partner state)
      ((policy.fetch request).hold partner state).value :=
  attempts_attemptFrom ..

theorem insists_fetch :
    policy.Insists request ((policy.fetch request).exchanges partner state) := by
  have attempts := policy.attempts_fetch request partner state
  have hlimit : policy.maxAttempts - 1 + 1 = policy.limit := by
    simp only [limit]
    omega
  exact ⟨attempts.ne_nil, hlimit ▸ attempts.length_le, attempts.asked_eq,
    fun _ => attempts.not_settles⟩

end RetryPolicy

end WordHunt
