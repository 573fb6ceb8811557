import WordHunt.Exchange.Clock
import WordHunt.Proofs.Exchange.Attempts

/-!
# Fetches by a clock

By a clock a dialogue is held as without one, as long as the deadlines of its attempts can be
fixed, and it breaks off at the first attempt whose deadline cannot.  The main statement follows a
fetch by a clock: it ends with the first attempt whose reply settles it, or with the last one
allowed, unless it breaks off before.
-/

namespace WordHunt

variable {σ α : Type}

namespace Dialogue

variable (clock : Clock σ) (partner : Partner σ)

theorem holdBy_eq_hold (dialogue : Dialogue α) (state : σ)
    (h : ∀ start ∈ dialogue.begun partner state,
      (clock.deadline? start.1 start.2.budget).isSome) :
    dialogue.holdBy clock partner state =
      let held := dialogue.hold partner state
      { held with value := some held.value } := by
  induction dialogue generalizing state with
  | done value => rfl
  | ask request attempt next ih =>
      simp only [begun, List.forall_mem_cons] at h
      obtain ⟨deadline, hdeadline⟩ := Option.isSome_iff_exists.mp h.1
      simp only [holdBy, hold, hdeadline, ih _ _ h.2]
  | pause span next ih => simp only [holdBy, hold, ih state h]
  | warn text next ih => simp only [holdBy, hold, ih state h]

theorem holdBy_breaksOff (dialogue : Dialogue α) (state : σ)
    {before after : List (σ × Attempt)} {start : σ × Attempt}
    (hbegun : dialogue.begun partner state = before ++ start :: after)
    (hbefore : ∀ earlier ∈ before, (clock.deadline? earlier.1 earlier.2.budget).isSome)
    (hnone : clock.deadline? start.1 start.2.budget = none) :
    let held := dialogue.hold partner state
    let timed := dialogue.holdBy clock partner state
    timed.value = none ∧ timed.state = start.1 ∧
      asked timed.events = (asked held.events).take before.length := by
  induction dialogue generalizing state before with
  | done value => simp [begun] at hbegun
  | ask request attempt next ih =>
      rw [begun] at hbegun
      cases before with
      | nil =>
          obtain ⟨rfl, -⟩ := List.cons.inj hbegun
          simp [holdBy, hnone, asked]
      | cons first before =>
          obtain ⟨rfl, hrest⟩ := List.cons.inj hbegun
          rw [List.forall_mem_cons] at hbefore
          obtain ⟨deadline, hdeadline⟩ := Option.isSome_iff_exists.mp hbefore.1
          obtain ⟨hvalue, hstate, hasked⟩ := ih _ _ hrest hbefore.2
          simp only [holdBy, hold, hdeadline]
          exact ⟨hvalue, hstate, congrArg ((request, attempt.number) :: ·) hasked⟩
  | pause span next ih => exact ih state hbegun hbefore
  | warn text next ih => exact ih state hbegun hbefore

end Dialogue

theorem attemptsBegun_eq_append (request : Request) (budget : Duration) (partner : Partner σ)
    {first number last : Nat} (hfirst : first ≤ number) (hlast : number ≤ last) (state : σ) :
    ∃ after, attemptsBegun request budget partner first last state =
      ((List.range' first (number - first)).map fun earlier =>
        (partner.stateBefore (request.attempt budget) first state earlier, ⟨earlier, budget⟩)) ++
        (partner.stateBefore (request.attempt budget) first state number, ⟨number, budget⟩) ::
          after := by
  have hsplit : last + 1 - first = (number - first) + (last - number + 1) := by omega
  have hnumber : first + (number - first) = number := by omega
  rw [attemptsBegun, hsplit, ← List.range'_append_1, List.map_append, hnumber, List.range'_succ,
    List.map_cons]
  exact ⟨_, rfl⟩

/--
A fetch by a clock ends with the first attempt whose reply settles it, or with the last one
allowed, if the deadlines of the attempts up to that one can be fixed.  It asks once for each of
them, and the reply to the last one decides alone what the fetch comes to.  Otherwise it breaks off
at the first attempt whose deadline cannot be fixed: that attempt is not asked for, and nothing
comes of the fetch.
-/
theorem RetryPolicy.fetchWith_by_clock (policy : RetryPolicy)
    (classify : Response → Disposition) (request : Request) (clock : Clock σ)
    (partner : Partner σ) (state : σ) :
    let budget := policy.attemptBudget
    let attempt := partner.turn (request.attempt budget) 1 state
    let deadline? := fun number =>
      clock.deadline? (partner.stateBefore (request.attempt budget) 1 state number) budget
    let fetched := (policy.fetchWith classify request).holdBy clock partner state
    ∃ last, 1 ≤ last ∧ last ≤ policy.limit ∧
      (∀ number, 1 ≤ number → number < last →
        ¬ (attempt number).value.Settles classify budget) ∧
      ((attempt last).value.Settles classify budget ∨ last = policy.limit) ∧
      ((∀ number, 1 ≤ number → number ≤ last → (deadline? number).isSome) →
        asked fetched.events = (List.range' 1 last).map (request, ·) ∧
        fetched.state = (attempt last).state ∧
        fetched.value ≠ none ∧
        (∀ response, fetched.value = some (.ok response) ↔
          (attempt last).value.Brings budget response ∧ classify response = .success) ∧
        (∀ failure, fetched.value = some (.error failure) ↔
          (attempt last).value.FailsWith classify request budget policy.limit failure)) ∧
      (∀ number, 1 ≤ number → number ≤ last → deadline? number = none →
        (∀ earlier, 1 ≤ earlier → earlier < number → (deadline? earlier).isSome) →
        asked fetched.events = (List.range' 1 (number - 1)).map (request, ·) ∧
        fetched.state = partner.stateBefore (request.attempt budget) 1 state number ∧
        fetched.value = none) := by
  intro budget attempt deadline? fetched
  obtain ⟨last, course, hbegun⟩ := policy.exists_course_fetchWith classify request partner state
  refine ⟨last, course.first_le, course.le_limit, course.not_settled, course.ends, ?_, ?_⟩
  · intro hdeadlines
    have hfetched := Dialogue.holdBy_eq_hold clock partner (policy.fetchWith classify request) state
      (fun start hstart => by
        rw [hbegun, attemptsBegun, List.mem_map] at hstart
        obtain ⟨number, hnumber, rfl⟩ := hstart
        obtain ⟨hfirst, hlast⟩ := List.mem_range'_1.mp hnumber
        exact hdeadlines number hfirst (by omega))
    simp only [fetched, hfetched, Option.some.injEq]
    exact ⟨course.asked_eq, course.state, Option.some_ne_none _, course.value_eq_ok_iff,
      course.value_eq_error_iff⟩
  · intro number hfirst hlast hnone hearlier
    obtain ⟨after, hsplit⟩ :=
      attemptsBegun_eq_append request budget partner hfirst hlast state
    rw [hsplit] at hbegun
    obtain ⟨hvalue, hstate, hasked⟩ := Dialogue.holdBy_breaksOff clock partner _ state hbegun
      (fun start hstart => by
        obtain ⟨earlier, hmem, rfl⟩ := List.mem_map.mp hstart
        obtain ⟨hfirst, hlast⟩ := List.mem_range'_1.mp hmem
        exact hearlier earlier hfirst (by omega)) hnone
    refine ⟨?_, hstate, hvalue⟩
    have hcount : last + 1 - 1 = (number - 1) + (last + 1 - number) := by omega
    rw [hasked, course.asked_eq, List.length_map, List.length_range', hcount,
      ← List.range'_append_1, List.map_append]
    exact List.take_left' (by simp)

/-- The longest budget in whole seconds outlasts the clock, and a reply that would settle the fetch
is never asked for. -/
theorem fetch_with_longest_budget_breaks_off :
    let policy : RetryPolicy :=
      { RetryPolicy.catalogue with attemptBudget := .ofSecs 18446744073709551615 }
    let request : Request := .get "https://svc.test/a"
    let partner := Partner.script fun _ => { outcome := .timedOut }
    let replies : List Reply := [{ outcome := .response ⟨200, ""⟩ }]
    let clock : Clock (List Reply) := .stoppedAt 0
    let fetched := (policy.fetch request).holdBy clock partner replies
    (partner.turn (request.attempt policy.attemptBudget) 1 replies 1).value.Settles
        Response.disposition policy.attemptBudget ∧
      asked fetched.events = [] ∧ fetched.value = none := by
  intro policy request partner replies clock fetched
  have hdeadline : clock.deadline? replies policy.attemptBudget = none := by decide +kernel
  have hfetched : fetched = ⟨none, [], replies⟩ := by
    change Dialogue.holdBy clock partner replies (RetryPolicy.fetch policy request) = _
    rw [RetryPolicy.fetch, RetryPolicy.fetchWith, attemptFrom]
    simp only [Dialogue.holdBy, hdeadline]
  rw [hfetched]
  exact ⟨⟨⟨200, ""⟩, ⟨⟨rfl, by decide⟩, rfl⟩, .inl rfl⟩, rfl, rfl⟩

end WordHunt
