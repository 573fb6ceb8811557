import WordHunt.Proofs.Exchange.Composition
import WordHunt.Proofs.Exchange.Exchanges

/-!
# What a dialogue can send

A dialogue sends requests of a kind if all requests in it are of this kind, whatever is replied.
Then so are the requests among its events, with any partner.
-/

namespace WordHunt

variable {σ α β : Type} {p : Request → Prop}

namespace Dialogue

def Sends (p : Request → Prop) : Dialogue α → Prop
  | .done _ => True
  | .ask request _ next => p request ∧ ∀ reply, (next reply).Sends p
  | .pause _ next => next.Sends p
  | .warn _ next => next.Sends p

theorem Sends.seq {dialogue : Dialogue α} {f : α → Dialogue β} (h : dialogue.Sends p)
    (hf : ∀ value, (f value).Sends p) : (dialogue >>= f).Sends p := by
  change (dialogue.bind f).Sends p
  induction dialogue with
  | done value => exact hf value
  | ask request attempt next ih =>
      constructor
      · exact h.1
      · intro reply
        exact ih reply (h.2 reply)
  | pause span next ih => exact ih h
  | warn text next ih => exact ih h

theorem compositional_sends : Compositional (Sends p) where
  done _ := trivial
  pause _ _ h := h
  warn _ _ h := h
  seq := Sends.seq

theorem Sends.of_mem_events {dialogue : Dialogue α} (h : dialogue.Sends p) {partner : Partner σ}
    {state : σ} {request : Request} {number : Nat}
    (hmem : .request request number ∈ (dialogue.hold partner state).events) : p request := by
  induction dialogue generalizing state with
  | done value => simp at hmem
  | ask asked attempt next ih =>
      simp only [hold, List.mem_cons, Event.request.injEq] at hmem
      rcases hmem with ⟨rfl, -⟩ | hmem
      · exact h.1
      · exact ih _ (h.2 _) hmem
  | pause span next ih =>
      simp only [hold, List.mem_cons, reduceCtorEq, false_or] at hmem
      exact ih h hmem
  | warn text next ih =>
      simp only [hold, List.mem_cons, reduceCtorEq, false_or] at hmem
      exact ih h hmem

theorem Sends.of_mem_exchanges {dialogue : Dialogue α} (h : dialogue.Sends p)
    {partner : Partner σ} {state : σ} {exchange : Exchange}
    (hmem : exchange ∈ dialogue.exchanges partner state) : p exchange.request := by
  induction dialogue generalizing state with
  | done value => simp at hmem
  | ask asked attempt next ih =>
      rw [exchanges, List.mem_cons] at hmem
      rcases hmem with rfl | hmem
      · exact h.1
      · exact ih _ (h.2 _) hmem
  | pause span next ih => exact ih h hmem
  | warn text next ih => exact ih h hmem

end Dialogue

theorem RetryPolicy.sends_fetch (policy : RetryPolicy) {request : Request}
    (hrequest : p request) : (policy.fetch request).Sends p := by
  apply Dialogue.compositional_sends.attemptFrom_of_ask
  intro attempt next _ hnext
  exact ⟨hrequest, hnext⟩

theorem RetryPolicy.exists_events_fetch (policy : RetryPolicy) (request : Request)
    (partner : Partner σ) (state : σ) :
    ∃ rest, ((policy.fetch request).hold partner state).events = .request request 1 :: rest := by
  rw [fetch, fetchWith, attemptFrom]
  exact ⟨_, rfl⟩

end WordHunt
