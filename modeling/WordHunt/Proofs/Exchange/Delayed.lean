import WordHunt.Proofs.Exchange.Attempts
import WordHunt.Proofs.Exchange.Composition

/-!
# Replies that are held up

Some replies are only setbacks: the attempt is over, the service is not reached or it asks to slow
down.  A dialogue that sends every request by way of a fetch does not notice them, as long as each
fetch has an attempt left for the reply that it waits for.  The idea is to let two runs go side by
side, one with the setbacks and one without, which are in step after every fetch.
-/

namespace WordHunt

variable {α β : Type}

/-! ## Transient replies -/

def Reply.isTransient (reply : Reply) (budget : Duration) : Bool :=
  reply.cancelled || decide (budget.nanos ≤ reply.elapsed.nanos) ||
    match reply.outcome with
    | .response response => response.status = 429
    | .timedOut | .unreachable _ => true

theorem Response.disposition_eq_rateLimited_iff (response : Response) :
    response.disposition = .rateLimited ↔ response.status = 429 := by
  by_cases hsuccess : response.isSuccess
  · have hrange : 200 ≤ response.status ∧ response.status < 300 := by
      simpa [isSuccess] using hsuccess
    have hstatus : response.status ≠ 429 := by omega
    simp [disposition, hsuccess, hstatus]
  · by_cases hstatus : response.status = 429 <;> simp [disposition, hsuccess, hstatus]

theorem Reply.settles_iff_not_transient (reply : Reply) (budget : Duration) :
    reply.Settles Response.disposition budget ↔ reply.isTransient budget = false := by
  have hclass (response : Response) :
      response.disposition = .success ∨ response.disposition = .fatal ↔
        response.status ≠ 429 := by
    rw [ne_eq, ← response.disposition_eq_rateLimited_iff]
    cases response.disposition <;> simp
  obtain ⟨outcome, cancelled, elapsed⟩ := reply
  cases outcome <;>
    simp [Settles, Brings, IsInTime, isTransient, hclass]

/-- A reply with the replies that come in its place at first. -/
structure Delayed where
  before : List Reply
  reply : Reply

namespace Delayed

def replies (delayed : Delayed) : List Reply :=
  delayed.before ++ [delayed.reply]

/--
A fetch by the policy gets through to the reply: it settles the fetch, those before it do not, and
there are fewer of them than attempts.
-/
def IsBorne (delayed : Delayed) (policy : RetryPolicy) : Prop :=
  delayed.reply.isTransient policy.attemptBudget = false ∧
    (∀ reply ∈ delayed.before, reply.isTransient policy.attemptBudget = true) ∧
    delayed.before.length < policy.limit

instance (delayed : Delayed) (policy : RetryPolicy) : Decidable (delayed.IsBorne policy) :=
  inferInstanceAs (Decidable (_ ∧ _ ∧ _))

end Delayed

/-! ## One fetch -/

section Fetch

variable (classify : Response → Disposition) (request : Request) (budget : Duration)
  (otherwise : Request → Reply)

theorem Result.conclusion_of_settles {reply : Reply} (h : reply.Settles classify budget)
    (first second : Nat) :
    ((⟨first, budget⟩ : Attempt).result classify reply).conclusion request ⟨first, budget⟩ =
      ((⟨second, budget⟩ : Attempt).result classify reply).conclusion request
        ⟨second, budget⟩ := by
  have hsettled := mt ((⟨second, budget⟩ : Attempt).exists_setback_iff classify).mp (not_not.mpr h)
  have hresult : (⟨first, budget⟩ : Attempt).result classify reply =
      (⟨second, budget⟩ : Attempt).result classify reply := rfl
  rw [hresult]
  cases hsecond : (⟨second, budget⟩ : Attempt).result classify reply with
  | success response => rfl
  | fatal response => rfl
  | setback cause => exact absurd ⟨cause, hsecond⟩ hsettled

theorem hold_attemptFrom_delayed {reply : Reply} (hreply : reply.Settles classify budget)
    (rest : List Reply) {before : List Reply}
    (hbefore : ∀ other ∈ before, ¬ other.Settles classify budget) {left : Nat}
    (hleft : before.length ≤ left) (number : Nat) (backoff : Duration) :
    let held := (attemptFrom classify request budget left number backoff).hold
      (.script otherwise) (before ++ reply :: rest)
    held.value = ((⟨1, budget⟩ : Attempt).result classify reply).conclusion request ⟨1, budget⟩ ∧
      held.state = rest := by
  -- Each reply held up uses one attempt, so the induction lets go of one of both.
  induction before generalizing left number backoff with
  | nil =>
      have hsettles : ((request.attempt budget number).hold (.script otherwise)
          (reply :: rest)).value.Settles classify budget := hreply
      rw [List.nil_append, hold_attemptFrom_of_ends _ _ _ _ _ (.inl hsettles)]
      exact ⟨Result.conclusion_of_settles classify request budget hreply number 1, rfl⟩
  | cons other before ih =>
      rw [List.length_cons] at hleft
      obtain ⟨left, rfl⟩ := Nat.exists_eq_add_of_le' (Nat.le_trans (Nat.le_add_left 1 _) hleft)
      have hother : ¬ ((request.attempt budget number).hold (.script otherwise)
          (other :: (before ++ reply :: rest))).value.Settles classify budget :=
        hbefore other List.mem_cons_self
      rw [List.cons_append, hold_attemptFrom_succ _ _ _ _ _ _ hother]
      exact ih (fun earlier hmem => hbefore earlier (List.mem_cons_of_mem other hmem))
        (by omega) (number + 1) backoff.double

theorem RetryPolicy.hold_fetch_delayed (policy : RetryPolicy) {delayed : Delayed}
    (h : delayed.IsBorne policy) (rest : List Reply) :
    let held := (policy.fetch request).hold (.script otherwise) (delayed.replies ++ rest)
    held.value = ((⟨1, policy.attemptBudget⟩ : Attempt).result Response.disposition
        delayed.reply).conclusion request ⟨1, policy.attemptBudget⟩ ∧
      held.state = rest := by
  obtain ⟨hreply, hbefore, hlength⟩ := h
  have hleft : delayed.before.length ≤ policy.maxAttempts - 1 := by
    simp only [limit] at hlength
    omega
  rw [Delayed.replies, List.append_assoc, List.singleton_append, fetch, fetchWith]
  refine hold_attemptFrom_delayed _ _ _ _ ?_ rest (fun other hother => ?_) hleft _ _
  · exact (delayed.reply.settles_iff_not_transient _).mpr hreply
  · rw [other.settles_iff_not_transient, hbefore other hother]
    decide

theorem RetryPolicy.exists_asked_fetch {σ : Type} (policy : RetryPolicy) (partner : Partner σ)
    (state : σ) :
    ∃ more, asked ((policy.fetch request).hold partner state).events = (request, 1) :: more := by
  rw [fetch, fetchWith, attemptFrom]
  exact ⟨_, rfl⟩

theorem RetryPolicy.asked_fetch_of_settles (policy : RetryPolicy) {reply : Reply}
    (h : reply.Settles Response.disposition policy.attemptBudget) (rest : List Reply) :
    asked ((policy.fetch request).hold (.script otherwise) (reply :: rest)).events =
      [(request, 1)] := by
  have hsettles : ((request.attempt policy.attemptBudget 1).hold (.script otherwise)
      (reply :: rest)).value.Settles Response.disposition policy.attemptBudget := h
  rw [fetch, fetchWith, hold_attemptFrom_of_ends _ _ _ _ _ (.inl hsettles)]
  rfl

end Fetch

/-! ## Dialogues made of fetches -/

/-- Every request of the dialogue is sent by a fetch, by the policy that goes with it. -/
inductive Dialogue.Fetches (policyFor : Request → RetryPolicy) : Dialogue α → Prop where
  | done (value : α) : Fetches policyFor (.done value)
  | pause (span : Duration) {next : Dialogue α} (fetches : Fetches policyFor next) :
      Fetches policyFor (.pause span next)
  | warn (text : String) {next : Dialogue α} (fetches : Fetches policyFor next) :
      Fetches policyFor (.warn text next)
  | fetch (request : Request) {next : Except Failure Response → Dialogue α}
      (fetches : ∀ fetched, Fetches policyFor (next fetched)) :
      Fetches policyFor (((policyFor request).fetch request).bind next)

namespace Dialogue

variable {policyFor : Request → RetryPolicy}

theorem Fetches.seq {dialogue : Dialogue α} {f : α → Dialogue β}
    (h : dialogue.Fetches policyFor) (hf : ∀ value, (f value).Fetches policyFor) :
    (dialogue >>= f).Fetches policyFor := by
  change (dialogue.bind f).Fetches policyFor
  induction h with
  | done value => exact hf value
  | pause span _ ih => exact .pause span ih
  | warn text _ ih => exact .warn text ih
  | fetch request _ ih =>
      rw [bind_bind]
      exact .fetch request ih

theorem compositional_fetches : Compositional (Fetches policyFor) where
  done := .done
  pause span _ := .pause span
  warn text _ := .warn text
  seq := Fetches.seq

theorem Fetches.of_fetch {policy : RetryPolicy} {request : Request}
    (h : policyFor request = policy) : (policy.fetch request).Fetches policyFor := by
  rw [← h, ← bind_done ((policyFor request).fetch request)]
  exact .fetch request .done

/--
Setbacks before the replies of a script make no difference to a dialogue made of fetches, if the
fetch that a reply is for bears those in front of it.  A reply is for the request in its place
among those that are asked without setbacks.
-/
theorem Fetches.value_of_delayed {dialogue : Dialogue α} (h : dialogue.Fetches policyFor)
    (otherwise : Request → Reply) (script : List Delayed)
    (hborne : ∀ entry ∈
      (asked (dialogue.hold (.script otherwise) (script.map Delayed.reply)).events).zip script,
        entry.2.IsBorne (policyFor entry.1.1)) :
    (dialogue.hold (.script otherwise) (script.flatMap Delayed.replies)).value =
      (dialogue.hold (.script otherwise) (script.map Delayed.reply)).value := by
  induction h generalizing script with
  | done value => rfl
  | pause span _ ih => exact ih script hborne
  | warn text _ ih => exact ih script hborne
  | @fetch request next _ ih =>
      cases script with
      | nil => rfl
      | cons delayed script =>
          simp only [List.flatMap_cons, List.map_cons, hold_bind, asked_append] at hborne ⊢
          -- The first request asked is that of the fetch, whatever comes after it.
          have hfirst : delayed.IsBorne (policyFor request) := by
            obtain ⟨more, hmore⟩ := (policyFor request).exists_asked_fetch request
              (.script otherwise) (delayed.reply :: script.map Delayed.reply)
            rw [hmore, List.cons_append, List.zip_cons_cons] at hborne
            exact hborne _ List.mem_cons_self
          have hreply := (delayed.reply.settles_iff_not_transient _).mpr hfirst.1
          have hprompt : Delayed.IsBorne ⟨[], delayed.reply⟩ (policyFor request) :=
            ⟨hfirst.1, by simp, Nat.lt_of_le_of_lt (Nat.zero_le _) hfirst.2.2⟩
          obtain ⟨hvalue, hstate⟩ := (policyFor request).hold_fetch_delayed request otherwise
            hfirst (script.flatMap Delayed.replies)
          obtain ⟨hvalue', hstate'⟩ := (policyFor request).hold_fetch_delayed request otherwise
            hprompt (script.map Delayed.reply)
          rw [(policyFor request).asked_fetch_of_settles request otherwise hreply,
            List.singleton_append, List.zip_cons_cons, List.forall_mem_cons] at hborne
          simp only [Delayed.replies, List.nil_append, List.singleton_append] at hvalue' hstate'
          rw [hvalue', hstate'] at hborne ⊢
          rw [hvalue, hstate]
          exact ih _ script hborne.2

end Dialogue

end WordHunt
