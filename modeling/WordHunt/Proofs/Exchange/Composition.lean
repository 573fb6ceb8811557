import WordHunt.Exchange.Retry

/-!
# How dialogues are put together

A property of dialogues is compositional if it is kept when they are put together with pauses,
warnings and what follows them.  Attempts at a request are put together from single questions, of
whose replies nothing matters but the result of the attempt.
-/

namespace WordHunt

structure Dialogue.Compositional (P : ∀ {α : Type}, Dialogue α → Prop) : Prop where
  done : ∀ {α : Type} (value : α), P (.done value)
  pause : ∀ {α : Type} (span : Duration) {next : Dialogue α}, P next → P (.pause span next)
  warn : ∀ {α : Type} (text : String) {next : Dialogue α}, P next → P (.warn text next)
  seq : ∀ {α β : Type} {first : Dialogue α} {f : α → Dialogue β},
    P first → (∀ value, P (f value)) → P (first >>= f)

theorem Dialogue.Compositional.attemptFrom_of_ask {P : ∀ {α : Type}, Dialogue α → Prop}
    (hP : Compositional P) {classify : Response → Disposition} {request : Request}
    (hask : ∀ (attempt : Attempt) (next : Reply → Dialogue (Except Failure Response)),
      (∀ first second, attempt.result classify first = attempt.result classify second →
        next first = next second) →
      (∀ reply, P (next reply)) → P (.ask request attempt next))
    (budget : Duration) (left number : Nat) (backoff : Duration) :
    P (attemptFrom classify request budget left number backoff) := by
  induction left generalizing number backoff with
  | zero =>
      rw [attemptFrom]
      apply hask
      · intro first second hsame
        simp only [hsame]
      · intro reply
        dsimp only
        split <;> exact hP.done _
  | succ left ih =>
      rw [attemptFrom]
      apply hask
      · intro first second hsame
        simp only [hsame]
      · intro reply
        dsimp only
        split
        · exact hP.done _
        · exact hP.done _
        · exact hP.warn _ (hP.pause _ (ih (number + 1) backoff.double))

end WordHunt
