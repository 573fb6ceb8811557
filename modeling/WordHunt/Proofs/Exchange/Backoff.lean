import Mathlib
import WordHunt.Proofs.Duration
import WordHunt.Proofs.Exchange.Attempts

/-!
# Warnings and pauses between attempts

Each attempt but the last one is followed by one warning and one pause, and the last one by nothing.
The pauses are the initial one doubled over and over, in words that cannot overflow.
-/

namespace WordHunt

variable {σ : Type}

/-- What becomes of an attempt that is not the last one: its warning, and the pause that follows. -/
def repeated (request : Request) (number : Nat) (cause : Setback) (backoff : Duration) :
    List Event :=
  [.request request number, .warn (cause.message ++ ", retrying"), .pause backoff]

section

variable (classify : Response → Disposition) (request : Request) (budget : Duration)
  (partner : Partner σ)

theorem setbackEvents_eq_flatMap {first count : Nat} {state : σ} (backoff : Duration)
    {cause : Nat → Setback}
    (hcause : ∀ number, number < count →
      (⟨first + number, budget⟩ : Attempt).result classify
        (partner.turn (request.attempt budget) first state (first + number)).value =
          .setback (cause number)) :
    setbackEvents classify request budget partner first count state backoff =
      (List.range count).flatMap fun number =>
        repeated request (first + number) (cause number) (Duration.double^[number] backoff) := by
  induction count generalizing first state backoff cause with
  | zero => rfl
  | succ count ih =>
      have hfirst := hcause 0 (Nat.succ_pos count)
      rw [Nat.add_zero, partner.turn_first] at hfirst
      have hrest := @ih (first + 1) ((request.attempt budget first).hold partner state).state
        backoff.double (fun number => cause (number + 1)) fun number hnumber => by
          have hnext := hcause (number + 1) (Nat.succ_lt_succ hnumber)
          rw [partner.turn_of_lt _ (by omega), partner.turn_first] at hnext
          rwa [Nat.add_right_comm, Nat.add_assoc]
      rw [setbackEvents, hfirst, hrest, List.range_succ_eq_map, List.flatMap_cons,
        List.flatMap_map]
      simp only [Nat.add_right_comm first 1]
      rfl

variable {classify request budget partner}

theorem Course.exists_cause {state : σ} {first limit last : Nat} {backoff : Duration}
    {fetched : Transcript σ (Except Failure Response)}
    (course : Course classify request budget partner state first limit backoff fetched last) :
    ∃ cause : Nat → Setback, ∀ number, first + number < last →
      (⟨first + number, budget⟩ : Attempt).result classify
        (partner.turn (request.attempt budget) first state (first + number)).value =
          .setback (cause number) := by
  have hcause (number : Nat) : ∃ cause, first + number < last →
      (⟨first + number, budget⟩ : Attempt).result classify
        (partner.turn (request.attempt budget) first state (first + number)).value =
          .setback cause := by
    by_cases hlast : first + number < last
    · obtain ⟨cause, hcause⟩ :=
        ((⟨first + number, budget⟩ : Attempt).exists_setback_iff classify).mpr
          (course.not_settled (first + number) (Nat.le_add_right first number) hlast)
      exact ⟨cause, fun _ => hcause⟩
    · exact ⟨.timedOut, fun h => absurd h hlast⟩
  choose cause hcause using hcause
  exact ⟨cause, hcause⟩

end

theorem toNat_succ_ofNat {number : Nat} (h : number + 1 < UInt32.size) :
    (UInt32.ofNat number + 1).toNat = number + 1 := by
  rw [UInt32.toNat_add, UInt32.toNat_ofNat_of_lt' (by omega)]
  exact Nat.mod_eq_of_lt h

/--
By a policy in machine words, each attempt but the last one is followed by the warning of its setback
and by one pause, and nothing follows the last one.  Neither the count of the attempts nor the
doubling of the pauses overflows: a pause is the initial one times a power of two, or the longest
span if that is shorter.
-/
theorem RetryPolicy.fetchWith_backs_off (attempts : UInt32) (start : SplitSpan)
    (budget : Duration) (classify : Response → Disposition) (request : Request)
    (partner : Partner σ) (state : σ) :
    ∃ (last : Nat) (cause : Nat → Setback), 1 ≤ last ∧ last ≤ max 1 attempts.toNat ∧
      (∀ number, number + 1 < last →
        (⟨number + 1, budget⟩ : Attempt).result classify
          (partner.turn (request.attempt budget) 1 state (number + 1)).value =
            .setback (cause number)) ∧
      (((⟨attempts.toNat, start.span, budget⟩ : RetryPolicy).fetchWith classify request).hold
        partner state).events =
          ((List.range (last - 1)).flatMap fun number =>
            repeated request (number + 1) (cause number) (SplitSpan.double^[number] start).span) ++
            [.request request last] ∧
      (∀ number, number < last → (UInt32.ofNat number + 1).toNat = number + 1) ∧
      ∀ number, (SplitSpan.double^[number] start).span.nanos =
        min (start.span.nanos * 2 ^ number) (18446744073709551615 * 1000000000 + 999999999) := by
  obtain ⟨last, course, -⟩ :=
    (⟨attempts.toNat, start.span, budget⟩ : RetryPolicy).exists_course_fetchWith classify request
      partner state
  obtain ⟨cause, hcause⟩ := course.exists_cause
  have hevents := @setbackEvents_eq_flatMap _ classify request budget partner 1 (last - 1) state
    start.span cause fun number hnumber => hcause number (by omega)
  have hlimit : last ≤ max 1 attempts.toNat := course.le_limit
  have hattempts : attempts.toNat < UInt32.size := attempts.toNat_lt
  refine ⟨last, cause, course.first_le, hlimit, fun number hnumber => ?_, ?_, fun number hnumber => ?_,
    fun number => ?_⟩
  · rw [Nat.add_comm number 1]
    exact hcause number (by omega)
  · rw [course.events, hevents]
    simp only [SplitSpan.span_iterate_double, Nat.add_comm 1]
  · have hsize : 1 < UInt32.size := by decide
    exact toNat_succ_ofNat (by omega)
  · rw [SplitSpan.span_iterate_double, Duration.nanos_iterate_double start.nanos_span_le,
      Duration.nanos_longest]

end WordHunt
