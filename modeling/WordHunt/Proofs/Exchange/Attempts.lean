import Mathlib.Data.List.Basic
import WordHunt.Exchange.Retry
import WordHunt.Proofs.Exchange.Series

/-!
# Attempts at a request

A fetch is a series of attempts that goes on as long as each ends in a setback and the limit is
not reached.  `Course` records the whole course of a fetch: which attempt is the last one, what
is asked, warned and waited on the way, and what the fetch comes to.
-/

namespace WordHunt

variable {σ : Type}

/-! ## Replies -/

namespace Reply

/-- The reply comes while its attempt still counts. -/
def IsInTime (reply : Reply) (budget : Duration) : Prop :=
  reply.cancelled = false ∧ reply.elapsed.nanos < budget.nanos

def Brings (reply : Reply) (budget : Duration) (response : Response) : Prop :=
  reply.IsInTime budget ∧ reply.outcome = .response response

def Settles (classify : Response → Disposition) (budget : Duration) (reply : Reply) : Prop :=
  ∃ response, reply.Brings budget response ∧
    (classify response = .success ∨ classify response = .fatal)

theorem late_or_timedOut_or_unreachable_or_brings (reply : Reply) (budget : Duration) :
    ¬ reply.IsInTime budget ∨ reply.outcome = .timedOut ∨
      (∃ reason, reply.IsInTime budget ∧ reply.outcome = .unreachable reason) ∨
      ∃ response, reply.Brings budget response := by
  by_cases hinTime : reply.IsInTime budget
  · cases houtcome : reply.outcome with
    | response response => exact .inr (.inr (.inr ⟨response, hinTime, houtcome⟩))
    | timedOut => exact .inr (.inl rfl)
    | unreachable reason => exact .inr (.inr (.inl ⟨reason, hinTime, rfl⟩))
  · exact .inl hinTime

theorem settles_iff_of_brings {classify : Response → Disposition} {budget : Duration}
    {reply : Reply} {response : Response} (h : reply.Brings budget response) :
    reply.Settles classify budget ↔
      classify response = .success ∨ classify response = .fatal := by
  constructor
  · rintro ⟨other, hother, hclass⟩
    have hsame : response = other := by
      simpa [h.2] using hother.2
    exact hsame ▸ hclass
  · exact fun hclass => ⟨response, h, hclass⟩

/-- How a fetch of `attempts` attempts fails by the reply to the last one. -/
inductive FailsWith (classify : Response → Disposition) (request : Request) (budget : Duration)
    (attempts : Nat) (reply : Reply) : Failure → Prop where
  | http {response : Response} (brings : reply.Brings budget response)
      (fatal : classify response = .fatal) :
      FailsWith classify request budget attempts reply
        (.http request.url response.status response.explanation?)
  | rateLimited {response : Response} (brings : reply.Brings budget response)
      (limited : classify response = .rateLimited) :
      FailsWith classify request budget attempts reply
        (.rateLimited request.url attempts response.status response.explanation?)
  | late (late : ¬ reply.IsInTime budget) :
      FailsWith classify request budget attempts reply (.timeout request.url attempts budget)
  | timedOut (timedOut : reply.outcome = .timedOut) :
      FailsWith classify request budget attempts reply (.timeout request.url attempts budget)
  | unreachable {reason : String} (inTime : reply.IsInTime budget)
      (unreachable : reply.outcome = .unreachable reason) :
      FailsWith classify request budget attempts reply (.network request.url attempts reason)

theorem failsWith_congr {classify : Response → Disposition} {request : Request}
    {budget : Duration} {attempts limit : Nat} {reply : Reply} {failure : Failure}
    (h : reply.Settles classify budget ∨ attempts = limit) :
    reply.FailsWith classify request budget attempts failure ↔
      reply.FailsWith classify request budget limit failure := by
  rcases h with ⟨response, ⟨hinTime, hresponse⟩, hclass⟩ | rfl
  · have hsettled {number : Nat} (h : reply.FailsWith classify request budget number failure) :
        classify response = .fatal ∧
          failure = .http request.url response.status response.explanation? := by
      cases h <;> simp_all [Brings]
    constructor <;> intro h <;> obtain ⟨hfatal, rfl⟩ := hsettled h <;>
      exact .http ⟨hinTime, hresponse⟩ hfatal
  · rfl

end Reply

/-! ## What an attempt comes to -/

def Result.conclusion (request : Request) (attempt : Attempt) :
    Result → Except Failure Response
  | .success response => .ok response
  | .fatal response => .error (.http request.url response.status response.explanation?)
  | .setback cause => .error (cause.failure request.url attempt)

theorem Result.conclusion_eq_ok_iff (request : Request) (attempt : Attempt) (result : Result)
    (response : Response) :
    result.conclusion request attempt = .ok response ↔ result = .success response := by
  cases result <;> simp [conclusion]

def Result.interlude (backoff : Duration) : Result → List Event
  | .success _ | .fatal _ => []
  | .setback cause => [.warn (cause.message ++ ", retrying"), .pause backoff]

namespace Attempt

variable (classify : Response → Disposition) (attempt : Attempt) {reply : Reply}

theorem isOver_eq_false_iff :
    attempt.isOver reply.cancelled reply.elapsed = false ↔ reply.IsInTime attempt.budget := by
  simp [isOver, Reply.IsInTime]

theorem result_of_late (h : ¬ reply.IsInTime attempt.budget) :
    attempt.result classify reply = .setback .timedOut := by
  have hover : attempt.isOver reply.cancelled reply.elapsed = true := by
    simpa [← attempt.isOver_eq_false_iff] using h
  simp [result, hover]

theorem result_of_timedOut (h : reply.outcome = .timedOut) :
    attempt.result classify reply = .setback .timedOut := by
  simp [result, h]

theorem result_of_unreachable {reason : String} (h : reply.IsInTime attempt.budget)
    (hreason : reply.outcome = .unreachable reason) :
    attempt.result classify reply = .setback (.unreachable reason) := by
  have hover := attempt.isOver_eq_false_iff.mpr h
  simp [result, hover, hreason]

theorem result_of_brings {response : Response} (h : reply.Brings attempt.budget response) :
    attempt.result classify reply =
      match classify response with
      | .success => .success response
      | .rateLimited => .setback (.rateLimited response.status response.explanation?)
      | .fatal => .fatal response := by
  have hover := attempt.isOver_eq_false_iff.mpr h.1
  simp only [result, hover, h.2]
  rfl

theorem result_eq_success_iff {response : Response} :
    attempt.result classify reply = .success response ↔
      reply.Brings attempt.budget response ∧ classify response = .success := by
  constructor
  · intro h
    rcases reply.late_or_timedOut_or_unreachable_or_brings attempt.budget with
      hlate | htimedOut | ⟨reason, hinTime, hreason⟩ | ⟨got, hgot⟩
    · rw [attempt.result_of_late classify hlate] at h
      contradiction
    · rw [attempt.result_of_timedOut classify htimedOut] at h
      contradiction
    · rw [attempt.result_of_unreachable classify hinTime hreason] at h
      contradiction
    · rw [attempt.result_of_brings classify hgot] at h
      cases hclass : classify got with
      | success =>
          simp only [hclass, Result.success.injEq] at h
          exact h ▸ ⟨hgot, hclass⟩
      | rateLimited => simp [hclass] at h
      | fatal => simp [hclass] at h
  · rintro ⟨hbrings, hclass⟩
    simp [attempt.result_of_brings classify hbrings, hclass]

theorem exists_setback_iff :
    (∃ setback, attempt.result classify reply = .setback setback) ↔
      ¬ reply.Settles classify attempt.budget := by
  rcases reply.late_or_timedOut_or_unreachable_or_brings attempt.budget with
    hlate | htimedOut | ⟨reason, hinTime, hreason⟩ | ⟨got, hgot⟩
  · simp [attempt.result_of_late classify hlate, Reply.Settles, Reply.Brings, hlate]
  · simp [attempt.result_of_timedOut classify htimedOut, Reply.Settles, Reply.Brings, htimedOut]
  · simp [attempt.result_of_unreachable classify hinTime hreason, Reply.Settles, Reply.Brings,
      hreason]
  · rw [attempt.result_of_brings classify hgot, Reply.settles_iff_of_brings hgot]
    cases classify got <;> simp

theorem conclusion_eq_error_iff (request : Request) (failure : Failure) :
    (attempt.result classify reply).conclusion request attempt = .error failure ↔
      reply.FailsWith classify request attempt.budget attempt.number failure := by
  constructor
  · intro h
    rcases reply.late_or_timedOut_or_unreachable_or_brings attempt.budget with
      hlate | htimedOut | ⟨reason, hinTime, hreason⟩ | ⟨got, hgot⟩
    · rw [attempt.result_of_late classify hlate] at h
      cases h
      exact .late hlate
    · rw [attempt.result_of_timedOut classify htimedOut] at h
      cases h
      exact .timedOut htimedOut
    · rw [attempt.result_of_unreachable classify hinTime hreason] at h
      cases h
      exact .unreachable hinTime hreason
    · rw [attempt.result_of_brings classify hgot] at h
      cases hclass : classify got <;> simp only [hclass] at h <;> cases h
      · exact .rateLimited hgot hclass
      · exact .http hgot hclass
  · intro h
    cases h with
    | http brings fatal =>
        simp [attempt.result_of_brings classify brings, fatal, Result.conclusion]
    | rateLimited brings limited =>
        simp [attempt.result_of_brings classify brings, limited, Result.conclusion,
          Setback.failure]
    | late late =>
        simp [attempt.result_of_late classify late, Result.conclusion, Setback.failure]
    | timedOut timedOut =>
        simp [attempt.result_of_timedOut classify timedOut, Result.conclusion, Setback.failure]
    | unreachable inTime unreachable =>
        simp [attempt.result_of_unreachable classify inTime unreachable, Result.conclusion,
          Setback.failure]

end Attempt

/-! ## The course of a fetch -/

def Request.attempt (request : Request) (budget : Duration) (number : Nat) : Dialogue Reply :=
  .ask request ⟨number, budget⟩ .done

section Course

variable (classify : Response → Disposition) (request : Request) (budget : Duration)
  (partner : Partner σ)

def setbackEvents : (number count : Nat) → σ → (backoff : Duration) → List Event
  | _, 0, _, _ => []
  | number, count + 1, state, backoff =>
      let tried := (request.attempt budget number).hold partner state
      tried.events ++ ((⟨number, budget⟩ : Attempt).result classify tried.value).interlude backoff ++
        setbackEvents (number + 1) count tried.state backoff.double

theorem asked_interlude (result : Result) (backoff : Duration) :
    asked (result.interlude backoff) = [] := by
  cases result <;> rfl

theorem asked_setbackEvents (number count : Nat) (state : σ) (backoff : Duration) :
    asked (setbackEvents classify request budget partner number count state backoff) =
      (List.range' number count).map (request, ·) := by
  induction count generalizing number state backoff with
  | zero => rfl
  | succ count ih =>
      simp only [setbackEvents, asked_append, asked_interlude, ih, List.range'_succ,
        List.map_cons]
      rfl

/-- The attempts from `first` to `last`, each with the state in which it begins. -/
def attemptsBegun (first last : Nat) (state : σ) : List (σ × Attempt) :=
  (List.range' first (last + 1 - first)).map fun number =>
    (partner.stateBefore (request.attempt budget) first state number, ⟨number, budget⟩)

theorem attemptsBegun_self (first : Nat) (state : σ) :
    attemptsBegun request budget partner first first state = [(state, ⟨first, budget⟩)] := by
  have hcount : first + 1 - first = 1 := by omega
  simp [attemptsBegun, hcount]

theorem attemptsBegun_of_lt {first last : Nat} (h : first < last) (state : σ) :
    attemptsBegun request budget partner first last state =
      (state, ⟨first, budget⟩) ::
        attemptsBegun request budget partner (first + 1) last
          ((request.attempt budget first).hold partner state).state := by
  have hcount : last + 1 - first = last + 1 - (first + 1) + 1 := by omega
  rw [attemptsBegun, hcount, List.range'_succ, List.map_cons, Partner.stateBefore_first]
  refine congrArg (_ :: ·) (List.map_congr_left fun number hnumber => ?_)
  rw [partner.stateBefore_of_lt _ (List.mem_range'_1.mp hnumber).1]

/-- A fetch whose attempts are numbered from `first` to `last` and would stop at `limit`. -/
structure Course (state : σ) (first limit : Nat) (backoff : Duration)
    (fetched : Transcript σ (Except Failure Response)) (last : Nat) : Prop where
  first_le : first ≤ last
  le_limit : last ≤ limit
  not_settled : ∀ number, first ≤ number → number < last →
    ¬ (partner.turn (request.attempt budget) first state number).value.Settles classify budget
  ends : (partner.turn (request.attempt budget) first state last).value.Settles classify budget ∨
    last = limit
  value : fetched.value = ((⟨last, budget⟩ : Attempt).result classify
    (partner.turn (request.attempt budget) first state last).value).conclusion request
      ⟨last, budget⟩
  events : fetched.events =
    setbackEvents classify request budget partner first (last - first) state backoff ++
      [.request request last]
  state : fetched.state = (partner.turn (request.attempt budget) first state last).state

theorem Course.single {state : σ} {first limit : Nat} {backoff : Duration}
    {fetched : Transcript σ (Except Failure Response)} (hlimit : first ≤ limit)
    (hends : ((request.attempt budget first).hold partner state).value.Settles classify budget ∨
      first = limit)
    (hfetched : fetched =
      { (request.attempt budget first).hold partner state with
        value := ((⟨first, budget⟩ : Attempt).result classify
          ((request.attempt budget first).hold partner state).value).conclusion request
            ⟨first, budget⟩ }) :
    Course classify request budget partner state first limit backoff fetched first := by
  subst hfetched
  refine ⟨Nat.le_refl _, hlimit, fun number hfirst hlast => absurd hfirst (by omega), ?_, ?_, ?_, ?_⟩
  · simpa using hends
  · simp
  · simp [setbackEvents, Request.attempt, Dialogue.hold]
  · simp

theorem Course.cons {state : σ} {first limit last : Nat} {backoff : Duration}
    {rest fetched : Transcript σ (Except Failure Response)}
    (hsetback :
      ¬ ((request.attempt budget first).hold partner state).value.Settles classify budget)
    (course : Course classify request budget partner
      ((request.attempt budget first).hold partner state).state (first + 1) limit backoff.double
      rest last)
    (hfetched : fetched =
      { rest with
        events := ((request.attempt budget first).hold partner state).events ++
          ((⟨first, budget⟩ : Attempt).result classify
            ((request.attempt budget first).hold partner state).value).interlude backoff ++
          rest.events }) :
    Course classify request budget partner state first limit backoff fetched last := by
  subst hfetched
  have hlt : first < last := course.first_le
  have hturn := partner.turn_of_lt (request.attempt budget) hlt state
  rw [partner.turn_first] at hturn
  refine ⟨Nat.le_of_lt hlt, course.le_limit, fun number hfirst hlast => ?_, ?_, ?_, ?_, ?_⟩
  · rcases Nat.eq_or_lt_of_le hfirst with rfl | hfirst
    · simpa using hsetback
    · rw [partner.turn_of_lt _ hfirst, partner.turn_first]
      exact course.not_settled number hfirst hlast
  · rw [hturn]
    exact course.ends
  · rw [hturn]
    exact course.value
  · have hcount : last - first = last - (first + 1) + 1 := by omega
    rw [hcount, setbackEvents]
    simp only [course.events, List.append_assoc]
  · rw [hturn]
    exact course.state

variable {classify request budget partner}

theorem Course.asked_eq {state : σ} {first limit last : Nat} {backoff : Duration}
    {fetched : Transcript σ (Except Failure Response)}
    (course : Course classify request budget partner state first limit backoff fetched last) :
    asked fetched.events = (List.range' first (last + 1 - first)).map (request, ·) := by
  have hfirst := course.first_le
  have hcount : last + 1 - first = last - first + 1 := by omega
  rw [course.events, asked_append, asked_setbackEvents, hcount, List.range'_concat,
    List.map_append]
  simp [asked, Event.asked?, hfirst]

theorem Course.value_eq_ok_iff {state : σ} {first limit last : Nat} {backoff : Duration}
    {fetched : Transcript σ (Except Failure Response)}
    (course : Course classify request budget partner state first limit backoff fetched last)
    (response : Response) :
    fetched.value = .ok response ↔
      (partner.turn (request.attempt budget) first state last).value.Brings budget response ∧
        classify response = .success := by
  rw [course.value, Result.conclusion_eq_ok_iff, Attempt.result_eq_success_iff]

theorem Course.value_eq_error_iff {state : σ} {first limit last : Nat} {backoff : Duration}
    {fetched : Transcript σ (Except Failure Response)}
    (course : Course classify request budget partner state first limit backoff fetched last)
    (failure : Failure) :
    fetched.value = .error failure ↔
      (partner.turn (request.attempt budget) first state last).value.FailsWith classify request
        budget limit failure := by
  rw [course.value, Attempt.conclusion_eq_error_iff]
  exact Reply.failsWith_congr course.ends

end Course

section Fetch

variable (classify : Response → Disposition) (request : Request) (budget : Duration)
  (partner : Partner σ)

-- All that is proved of attempts in a row rests on these two ways in which one of them goes on.
theorem exists_attemptFrom_eq (left number : Nat) (backoff : Duration) :
    ∃ next, attemptFrom classify request budget left number backoff =
        .ask request ⟨number, budget⟩ next ∧
      (∀ reply : Reply, reply.Settles classify budget ∨ left = 0 →
        next reply = .done (((⟨number, budget⟩ : Attempt).result classify reply).conclusion request
          ⟨number, budget⟩)) ∧
      ∀ (more : Nat) (reply : Reply), left = more + 1 → ¬ reply.Settles classify budget →
        ∃ cause, (⟨number, budget⟩ : Attempt).result classify reply = .setback cause ∧
          next reply = .warn (cause.message ++ ", retrying") (.pause backoff
            (attemptFrom classify request budget more (number + 1) backoff.double)) := by
  rw [attemptFrom]
  refine ⟨_, rfl, fun reply hends => ?_, fun more reply hleft hunsettled => ?_⟩
  · have hsetback := @Attempt.exists_setback_iff classify ⟨number, budget⟩ reply
    cases hresult : (⟨number, budget⟩ : Attempt).result classify reply with
    | success response => rfl
    | fatal response => rfl
    | setback cause =>
        rcases hends with hsettles | rfl
        · exact absurd hsettles (hsetback.mp ⟨cause, hresult⟩)
        · rfl
  · obtain ⟨cause, hcause⟩ :=
      ((⟨number, budget⟩ : Attempt).exists_setback_iff classify).mpr hunsettled
    subst hleft
    exact ⟨cause, hcause, by simp only [hcause]⟩

theorem hold_attemptFrom_of_ends {state : σ} {left number : Nat} (backoff : Duration)
    (h : ((request.attempt budget number).hold partner state).value.Settles classify budget ∨
      left = 0) :
    (attemptFrom classify request budget left number backoff).hold partner state =
      { (request.attempt budget number).hold partner state with
        value := ((⟨number, budget⟩ : Attempt).result classify
          ((request.attempt budget number).hold partner state).value).conclusion request
            ⟨number, budget⟩ } := by
  obtain ⟨next, hnext, hdone, -⟩ := exists_attemptFrom_eq classify request budget left number backoff
  simp only [Request.attempt, Dialogue.hold] at h ⊢
  simp only [hnext, Dialogue.hold, hdone _ h]

theorem hold_attemptFrom_succ {state : σ} {number : Nat} (left : Nat) (backoff : Duration)
    (h : ¬ ((request.attempt budget number).hold partner state).value.Settles classify budget) :
    (attemptFrom classify request budget (left + 1) number backoff).hold partner state =
      let tried := (request.attempt budget number).hold partner state
      let rest := (attemptFrom classify request budget left (number + 1) backoff.double).hold
        partner tried.state
      { rest with
        events := tried.events ++
          ((⟨number, budget⟩ : Attempt).result classify tried.value).interlude backoff ++
          rest.events } := by
  obtain ⟨next, hnext, -, hgoesOn⟩ :=
    exists_attemptFrom_eq classify request budget (left + 1) number backoff
  obtain ⟨cause, hcause, hrest⟩ := hgoesOn left _ rfl h
  simp only [Request.attempt, Dialogue.hold] at hcause hrest ⊢
  simp [hnext, hrest, hcause, Dialogue.hold, Result.interlude]

theorem begun_attemptFrom_of_ends {state : σ} {left number : Nat} (backoff : Duration)
    (h : ((request.attempt budget number).hold partner state).value.Settles classify budget ∨
      left = 0) :
    (attemptFrom classify request budget left number backoff).begun partner state =
      [(state, ⟨number, budget⟩)] := by
  obtain ⟨next, hnext, hdone, -⟩ := exists_attemptFrom_eq classify request budget left number backoff
  simp only [Request.attempt, Dialogue.hold] at h
  simp only [hnext, Dialogue.begun, hdone _ h]

theorem begun_attemptFrom_succ {state : σ} {number : Nat} (left : Nat) (backoff : Duration)
    (h : ¬ ((request.attempt budget number).hold partner state).value.Settles classify budget) :
    (attemptFrom classify request budget (left + 1) number backoff).begun partner state =
      (state, ⟨number, budget⟩) ::
        (attemptFrom classify request budget left (number + 1) backoff.double).begun partner
          ((request.attempt budget number).hold partner state).state := by
  obtain ⟨next, hnext, -, hgoesOn⟩ :=
    exists_attemptFrom_eq classify request budget (left + 1) number backoff
  obtain ⟨cause, -, hrest⟩ := hgoesOn left _ rfl h
  simp only [Request.attempt, Dialogue.hold] at hrest ⊢
  simp only [hnext, Dialogue.begun, hrest]

theorem exists_course (left first : Nat) (backoff : Duration) (state : σ) :
    ∃ last, Course classify request budget partner state first (first + left) backoff
      ((attemptFrom classify request budget left first backoff).hold partner state) last ∧
      (attemptFrom classify request budget left first backoff).begun partner state =
        attemptsBegun request budget partner first last state := by
  induction left generalizing first backoff state with
  | zero =>
      refine ⟨first, .single classify request budget partner (Nat.le_refl _) (.inr rfl)
        (hold_attemptFrom_of_ends classify request budget partner backoff (.inr rfl)), ?_⟩
      rw [begun_attemptFrom_of_ends _ _ _ _ _ (.inr rfl), attemptsBegun_self]
  | succ left ih =>
      by_cases hsettles :
          ((request.attempt budget first).hold partner state).value.Settles classify budget
      · refine ⟨first, .single classify request budget partner (by omega) (.inl hsettles)
          (hold_attemptFrom_of_ends classify request budget partner backoff (.inl hsettles)),
          ?_⟩
        rw [begun_attemptFrom_of_ends _ _ _ _ _ (.inl hsettles), attemptsBegun_self]
      · obtain ⟨last, course, hbegun⟩ := ih (first + 1) backoff.double
          ((request.attempt budget first).hold partner state).state
        have hlt : first < last := course.first_le
        -- The limit stays the same: one attempt more is done, and one less is left.
        rw [show first + 1 + left = first + (left + 1) by omega] at course
        refine ⟨last, .cons classify request budget partner hsettles course
          (hold_attemptFrom_succ classify request budget partner left backoff hsettles), ?_⟩
        rw [begun_attemptFrom_succ _ _ _ _ _ _ hsettles, hbegun, attemptsBegun_of_lt _ _ _ hlt]

end Fetch

namespace RetryPolicy

def limit (policy : RetryPolicy) : Nat :=
  max 1 policy.maxAttempts

theorem exists_course_fetchWith (policy : RetryPolicy) (classify : Response → Disposition)
    (request : Request) (partner : Partner σ) (state : σ) :
    ∃ last, Course classify request policy.attemptBudget partner state 1 policy.limit
      policy.initialBackoff ((policy.fetchWith classify request).hold partner state) last ∧
      (policy.fetchWith classify request).begun partner state =
        attemptsBegun request policy.attemptBudget partner 1 last state := by
  have hlimit : policy.limit = 1 + (policy.maxAttempts - 1) := by
    simp only [limit]
    omega
  rw [hlimit]
  exact exists_course classify request policy.attemptBudget partner (policy.maxAttempts - 1) 1
    policy.initialBackoff state

end RetryPolicy

end WordHunt
