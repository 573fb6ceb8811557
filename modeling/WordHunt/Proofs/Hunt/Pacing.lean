import WordHunt.Proofs.Dictionary.Ledger
import WordHunt.Proofs.Hunt.Tasks

/-!
# Pauses between look-ups

A pause belongs to the request before it.  When words are looked up, what matters is whether a
request awaits its pause: a request is made only if none does, and only then is there a pause.  So
requests and pauses take turns, and words that are remembered are passed over without either.
-/

namespace WordHunt

variable {σ : Type}

namespace Event

def isRequest : Event → Bool
  | .request _ _ => true
  | _ => false

def isPause : Event → Bool
  | .pause _ => true
  | _ => false

theorem countP_isRequest_eq_zero {events : List Event}
    (h : ∀ event ∈ events, event.isRequest = false) : events.countP isRequest = 0 := by
  rw [List.countP_eq_zero]
  intro event hevent
  simp [h event hevent]

end Event

/-! ## Taking turns -/

/--
Events in which requests and pauses of one span take turns, among warnings.  The truth values say
whether a request awaits its pause before and after them.
-/
inductive TakesTurns (span : Duration) : Bool → List Event → Bool → Prop where
  | nil (awaiting : Bool) : TakesTurns span awaiting [] awaiting
  | warn {awaiting last : Bool} {events : List Event} (text : String) :
      TakesTurns span awaiting events last → TakesTurns span awaiting (.warn text :: events) last
  | request {last : Bool} {events : List Event} (request : Request) (number : Nat) :
      TakesTurns span true events last →
        TakesTurns span false (.request request number :: events) last
  | pause {last : Bool} {events : List Event} :
      TakesTurns span false events last → TakesTurns span true (.pause span :: events) last

namespace TakesTurns

variable {span : Duration} {awaiting middle last : Bool} {first second events : List Event}

theorem append (hfirst : TakesTurns span awaiting first middle)
    (hsecond : TakesTurns span middle second last) :
    TakesTurns span awaiting (first ++ second) last := by
  induction hfirst with
  | nil => exact hsecond
  | warn text _ ih => exact .warn text (ih hsecond)
  | request message number _ ih => exact .request message number (ih hsecond)
  | pause _ ih => exact .pause (ih hsecond)

theorem exists_of_append (h : TakesTurns span awaiting (first ++ second) last) :
    ∃ middle, TakesTurns span awaiting first middle ∧ TakesTurns span middle second last := by
  induction first generalizing awaiting with
  | nil => exact ⟨awaiting, .nil awaiting, h⟩
  | cons event first ih =>
      cases h with
      | warn text hrest =>
          obtain ⟨middle, hfirst, hsecond⟩ := ih hrest
          exact ⟨middle, .warn text hfirst, hsecond⟩
      | request message number hrest =>
          obtain ⟨middle, hfirst, hsecond⟩ := ih hrest
          exact ⟨middle, .request message number hfirst, hsecond⟩
      | pause hrest =>
          obtain ⟨middle, hfirst, hsecond⟩ := ih hrest
          exact ⟨middle, .pause hfirst, hsecond⟩

theorem countP_isPause (h : TakesTurns span awaiting events last) :
    events.countP Event.isPause + last.toNat =
      events.countP Event.isRequest + awaiting.toNat := by
  induction h with
  | nil => rfl
  | warn text _ ih => simpa [Event.isPause, Event.isRequest] using ih
  | request _ _ _ ih | pause _ ih =>
      simp only [Event.isPause, Event.isRequest, List.countP_cons, if_true, if_false,
        Bool.false_eq_true, Bool.toNat_true, Bool.toNat_false] at ih ⊢
      omega

theorem eq_of_pause_mem (h : TakesTurns span awaiting events last) {other : Duration}
    (hmem : .pause other ∈ events) : other = span := by
  induction h with
  | nil => cases hmem
  | warn text _ ih => exact ih (by simpa using hmem)
  | request message number _ ih => exact ih (by simpa using hmem)
  | pause _ ih =>
      rcases List.mem_cons.mp hmem with hsame | hmem
      · exact Event.pause.inj hsame
      · exact ih hmem

end TakesTurns

/-! ## Manners -/

/--
There is no pause before the first request and exactly one, of the given span, from each request to
the next; so at no time have there been more pauses than requests.
-/
structure KeepsDistance (span : Duration) (events : List Event) : Prop where
  first : ∀ before request number after, events = before ++ .request request number :: after →
    (∀ event ∈ before, event.isRequest = false) → ∀ event ∈ before, event.isPause = false
  next : ∀ before request number between other otherNumber after,
    events = before ++ .request request number ::
      (between ++ .request other otherNumber :: after) →
    (∀ event ∈ between, event.isRequest = false) →
      between.filter Event.isPause = [.pause span]
  fewer : ∀ before after, events = before ++ after →
    before.countP Event.isPause ≤ before.countP Event.isRequest

namespace TakesTurns

variable {span : Duration} {awaiting last : Bool} {events : List Event}

theorem eq_false_of_request {request : Request} {number : Nat}
    (h : TakesTurns span awaiting (.request request number :: events) last) :
    awaiting = false ∧ TakesTurns span true events last := by
  cases h with
  | request _ _ hrest => exact ⟨rfl, hrest⟩

theorem filter_isPause (h : TakesTurns span true events false)
    (hnone : ∀ event ∈ events, event.isRequest = false) :
    events.filter Event.isPause = [.pause span] := by
  have hcount := h.countP_isPause
  rw [Event.countP_isRequest_eq_zero hnone, List.countP_eq_length_filter] at hcount
  have hlength : (events.filter Event.isPause).length = 1 := by simpa using hcount
  obtain ⟨event, hevent⟩ := List.length_eq_one_iff.mp hlength
  have hmem : event ∈ events.filter Event.isPause := by
    rw [hevent]
    exact List.mem_singleton_self event
  obtain ⟨hmem, hpause⟩ := List.mem_filter.mp hmem
  rw [hevent]
  cases event with
  | pause other => rw [h.eq_of_pause_mem hmem]
  | request | warn => cases hpause

theorem keepsDistance (h : TakesTurns span false events last) : KeepsDistance span events where
  first before request number after hevents hnone := by
    rw [hevents] at h
    obtain ⟨middle, hbefore, hafter⟩ := h.exists_of_append
    obtain ⟨rfl, -⟩ := hafter.eq_false_of_request
    have hcount := hbefore.countP_isPause
    rw [Event.countP_isRequest_eq_zero hnone] at hcount
    intro event hevent
    have hzero := List.countP_eq_zero.mp hcount event hevent
    simpa using hzero
  next before request number between other otherNumber after hevents hnone := by
    rw [hevents] at h
    -- A pause is awaited after the first request and none is before the other.
    obtain ⟨_, -, hrequest⟩ := h.exists_of_append
    obtain ⟨-, hrest⟩ := hrequest.eq_false_of_request
    obtain ⟨_, hbetween, hother⟩ := hrest.exists_of_append
    obtain ⟨rfl, -⟩ := hother.eq_false_of_request
    exact hbetween.filter_isPause hnone
  fewer before after hevents := by
    rw [hevents] at h
    obtain ⟨_, hbefore, -⟩ := h.exists_of_append
    have hcount := hbefore.countP_isPause
    rw [Bool.toNat_false] at hcount
    omega

end TakesTurns

/-! ## Look-ups -/

variable (partner : Partner σ) (state : σ)

namespace Dictionary

variable (dictionary : Dictionary)

theorem isFresh_judge (attempt : Attempt) (reply : Reply) :
    (judge attempt reply).1.isFresh = true := by
  rw [judge]
  split
  · rfl
  · cases reply.outcome with
    | response response =>
        by_cases hfound : response.status = 200 <;> by_cases hmissing : response.status = 404 <;>
          simp [hfound, hmissing, Verdict.isFresh]
    | timedOut | unreachable => rfl

theorem takesTurns_lookup (span : Duration) (word : String) :
    TakesTurns span false ((dictionary.lookup word).hold partner state).events true ∧
      ((dictionary.lookup word).hold partner state).value.isFresh = true := by
  simp only [lookup, Dialogue.hold]
  have hfresh := isFresh_judge ⟨1, dictionary.budget⟩
    (dictionary.consultation partner state word).reply
  simp only [consultation] at hfresh
  split
  next verdict hjudge =>
    rw [hjudge] at hfresh
    exact ⟨.request _ _ (.nil true), hfresh⟩
  next verdict warning hjudge =>
    rw [hjudge] at hfresh
    exact ⟨.request _ _ (.warn warning (.nil true)), hfresh⟩

theorem takesTurns_check (span : Duration) (verdicts : Verdicts) (word : String) (length : Nat) :
    let checked := (dictionary.check verdicts word length).hold partner state
    TakesTurns span false checked.events checked.value.1.isFresh := by
  intro checked
  cases hentry : verdicts.get? word length with
  | some exist =>
      simp only [checked, dictionary.check_of_remembered verdicts hentry]
      exact .nil false
  | none =>
      by_cases hlength : word.length = length
      · obtain ⟨hturns, hfresh⟩ := dictionary.takesTurns_lookup partner state span word
        simp only [checked, dictionary.check_of_forgotten verdicts hentry hlength,
          Dialogue.hold_seq, Dialogue.hold_pure, List.append_nil, hfresh]
        exact hturns
      · simp only [checked, dictionary.check_of_mismatch verdicts hentry hlength]
        exact .nil false

end Dictionary

namespace Hunter

variable (hunter : Hunter)

theorem takesTurns_lookUpFrom (dictionary : Dictionary) (length : Nat) (asked : Bool)
    (verdicts : Verdicts) (words : List String) :
    ∃ last, TakesTurns hunter.lookupDelay asked
      ((hunter.lookUpFrom dictionary length asked verdicts words).hold partner state).events
      last := by
  induction words generalizing asked verdicts state with
  | nil => exact ⟨asked, .nil asked⟩
  | cons word words ih =>
      have hcheck :=
        dictionary.takesTurns_check partner state hunter.lookupDelay verdicts word length
      let checked := (dictionary.check verdicts word length).hold partner state
      obtain ⟨last, hrest⟩ := ih checked.state checked.value.1.isFresh checked.value.2
      refine ⟨last, ?_⟩
      -- a pause that the word before calls for is made even if this word is remembered
      cases asked with
      | false =>
          simp only [lookUpFrom, Dialogue.hold_seq, Dialogue.hold_pure, List.append_nil,
            Bool.false_eq_true, if_false]
          exact hcheck.append hrest
      | true =>
          simp only [lookUpFrom, Dialogue.hold, Dialogue.hold_seq, Dialogue.hold_pure,
            List.append_nil, if_true]
          exact .pause (hcheck.append hrest)

theorem keepsDistance_lookUp (length : Nat) (words : List String) :
    KeepsDistance hunter.lookupDelay ((hunter.lookUp length words).hold partner state).events := by
  rw [lookUp]
  cases hunter.dictionary with
  | none => exact (TakesTurns.nil false).keepsDistance
  | some dictionary =>
      obtain ⟨last, hturns⟩ :=
        hunter.takesTurns_lookUpFrom partner state dictionary length false hunter.verdicts words
      exact hturns.keepsDistance

theorem keepsDistance_finish (gathered : Gathered) :
    KeepsDistance hunter.lookupDelay ((hunter.finish gathered).hold partner state).events := by
  cases gathered with
  | ended ends => exact (TakesTurns.nil false).keepsDistance
  | kept clues seed harvest =>
      simp only [finish, conclude, Dialogue.hold_seq, Dialogue.hold_pure, List.append_nil]
      exact hunter.keepsDistance_lookUp partner state clues.length _

/--
Look-ups keep their distance, whatever the words, whatever is remembered and whatever the partner
answers; and all that happens in a hunt after its harvest are such look-ups.
-/
theorem pauses_between_lookups :
    (∀ length words,
      KeepsDistance hunter.lookupDelay ((hunter.lookUp length words).hold partner state).events) ∧
    ∀ task,
      let gathered := (hunter.gather task).hold partner state
      let finished := (hunter.finish gathered.value).hold partner gathered.state
      ((hunter.pursue task).hold partner state).events = gathered.events ++ finished.events ∧
        KeepsDistance hunter.lookupDelay finished.events := by
  refine ⟨hunter.keepsDistance_lookUp partner state, fun task => ⟨?_, ?_⟩⟩
  · rw [hunter.pursue_eq task, Dialogue.hold_seq]
  · exact hunter.keepsDistance_finish partner _ _

end Hunter

end WordHunt
