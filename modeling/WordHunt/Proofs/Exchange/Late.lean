import WordHunt.Proofs.Exchange.Composition
import WordHunt.Proofs.Exchange.Exchanges

/-!
# Late replies

What comes after an attempt is over counts as no answer, whatever it says.  A dialogue disregards
late replies if it always goes on alike by replies that differ in nothing but what comes too late.
Held with two scripts that differ in nothing else it takes the same course.
-/

namespace WordHunt

variable {α β : Type}

/-- The replies differ for the attempt at most in what comes after it is over. -/
structure Reply.SameFor (attempt : Attempt) (first second : Reply) : Prop where
  isOver_eq : attempt.isOver first.cancelled first.elapsed =
    attempt.isOver second.cancelled second.elapsed
  outcome_eq : attempt.isOver first.cancelled first.elapsed = false →
    first.outcome = second.outcome

instance (attempt : Attempt) (first second : Reply) : Decidable (first.SameFor attempt second) :=
  decidable_of_iff
    (attempt.isOver first.cancelled first.elapsed =
        attempt.isOver second.cancelled second.elapsed ∧
      (attempt.isOver first.cancelled first.elapsed = false → first.outcome = second.outcome))
    ⟨fun h => ⟨h.1, h.2⟩, fun h => ⟨h.1, h.2⟩⟩

namespace Reply

variable {attempt : Attempt} {first second : Reply}

theorem SameFor.result_eq (h : first.SameFor attempt second) (classify : Response → Disposition) :
    attempt.result classify first = attempt.result classify second := by
  rw [Attempt.result, Attempt.result, ← h.isOver_eq]
  split
  · rfl
  next hover => rw [h.outcome_eq (by simpa using hover)]

end Reply

namespace Dialogue

/-- Replies that are the same for an attempt have the same continuation. -/
def DisregardsLate : Dialogue α → Prop
  | .done _ => True
  | .ask _ attempt next =>
      (∀ first second, Reply.SameFor attempt first second → next first = next second) ∧
        ∀ reply, (next reply).DisregardsLate
  | .pause _ next => next.DisregardsLate
  | .warn _ next => next.DisregardsLate

theorem DisregardsLate.seq {dialogue : Dialogue α} {f : α → Dialogue β}
    (h : dialogue.DisregardsLate) (hf : ∀ value, (f value).DisregardsLate) :
    (dialogue >>= f).DisregardsLate := by
  change (dialogue.bind f).DisregardsLate
  induction dialogue with
  | done value => exact hf value
  | ask request attempt next ih =>
      refine ⟨fun first second hsame => ?_, fun reply => ih reply (h.2 reply)⟩
      exact congrArg (·.bind f) (h.1 first second hsame)
  | pause span next ih => exact ih h
  | warn text next ih => exact ih h

theorem compositional_disregardsLate : Compositional DisregardsLate where
  done _ := trivial
  pause _ _ h := h
  warn _ _ h := h
  seq := DisregardsLate.seq

theorem DisregardsLate.hold_eq {dialogue : Dialogue α} (h : dialogue.DisregardsLate)
    (otherwise : Request → Reply) {replies others : List Reply}
    (hlength : replies.length = others.length)
    (hsame : ∀ entry ∈ (dialogue.exchanges (.script otherwise) replies).zip others,
      entry.1.reply.SameFor entry.1.attempt entry.2) :
    (dialogue.hold (.script otherwise) replies).value =
        (dialogue.hold (.script otherwise) others).value ∧
      (dialogue.hold (.script otherwise) replies).events =
        (dialogue.hold (.script otherwise) others).events ∧
      (dialogue.hold (.script otherwise) replies).state.length =
        (dialogue.hold (.script otherwise) others).state.length := by
  induction dialogue generalizing replies others with
  | done value => exact ⟨rfl, rfl, hlength⟩
  | ask request attempt next ih =>
      cases replies with
      | nil =>
          obtain rfl := List.eq_nil_of_length_eq_zero hlength.symm
          exact ⟨rfl, rfl, rfl⟩
      | cons reply replies =>
          obtain ⟨other, others, rfl⟩ := List.exists_cons_of_length_eq_add_one hlength.symm
          rw [exchanges_ask_script, List.zip_cons_cons, List.forall_mem_cons] at hsame
          obtain ⟨hfirst, hrest⟩ := hsame
          obtain ⟨hvalue, hevents, hstate⟩ := ih reply (h.2 reply) (Nat.succ.inj hlength) hrest
          rw [hold_ask_script, hold_ask_script, ← h.1 reply other hfirst]
          exact ⟨hvalue, congrArg (Event.request request attempt.number :: ·) hevents, hstate⟩
  | pause span next ih =>
      obtain ⟨hvalue, hevents, hstate⟩ := ih h hlength hsame
      exact ⟨hvalue, congrArg (Event.pause span :: ·) hevents, hstate⟩
  | warn text next ih =>
      obtain ⟨hvalue, hevents, hstate⟩ := ih h hlength hsame
      exact ⟨hvalue, congrArg (Event.warn text :: ·) hevents, hstate⟩

end Dialogue

/-! ## Fetches -/

theorem RetryPolicy.disregardsLate_fetchWith (policy : RetryPolicy)
    (classify : Response → Disposition) (request : Request) :
    (policy.fetchWith classify request).DisregardsLate := by
  apply Dialogue.compositional_disregardsLate.attemptFrom_of_ask
  intro attempt next halike hnext
  constructor
  · intro first second hsame
    exact halike first second (hsame.result_eq classify)
  · exact hnext

end WordHunt
