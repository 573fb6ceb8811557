import Mathlib
import WordHunt.Proofs.Catalogue.Chain
import WordHunt.Proofs.Exchange.Attempts

/-!
# Every harvest ends

The numbers that decide how a harvest goes on are named by whoever answers.  Still, the cursor goes
from a page to the very next one or is done, and no page number reaches the bound.  So a harvest
ends, after fewer pages than that, and each of them is one fetch with no more requests than its
policy allows.  The count of pages keeps in step with the cursor.
-/

namespace WordHunt

variable {σ : Type}

/-! ## The way of the cursor -/

namespace Cursor

/-- The cursor after some pages, each of which declares a next one or none. -/
def after (declared : Nat → Option Nat) : Nat → Cursor
  | 0 => .start
  | count + 1 => (after declared count).advance (declared count)

variable {declared : Nat → Option Nat}

theorem after_eq_at_or_done (count : Nat) :
    (after declared count = .at (count + 1) ∧ count + 1 < Page.pageBound) ∨
      after declared count = .done := by
  induction count with
  | zero => exact .inl ⟨rfl, by decide⟩
  | succ count ih =>
      rw [after]
      rcases ih with ⟨hat, -⟩ | hdone
      · rw [hat]
        cases hnext : (Cursor.at (count + 1)).advance (declared count) with
        | «at» next =>
            obtain ⟨rfl, hbound⟩ := advance_eq_at hnext
            exact .inl ⟨rfl, hbound⟩
        | done => exact .inr rfl
      · rw [hdone]
        exact .inr rfl

theorem after_eq_done_of_le {count later : Nat} (hdone : after declared count = .done)
    (hle : count ≤ later) : after declared later = .done := by
  induction later, hle using Nat.le_induction with
  | base => exact hdone
  | succ later hle ih =>
      rw [after, ih]
      rfl

end Cursor

/-- The page that a visit names as the next one; a visit that fails names none. -/
def nextNamed (visited : Except Failure Response) : Option Nat :=
  visited.toOption.bind fun response => Page.nextPageIn? response.body

theorem leadsOn_iff {page : Nat} {visited : Except Failure Response} :
    LeadsOn page visited ↔ nextNamed visited = some (page + 1) := by
  cases visited <;> simp [LeadsOn, nextNamed, Except.toOption]

theorem nextNamed_lt {visited : Except Failure Response} {next : Nat}
    (h : nextNamed visited = some next) : next < Page.pageBound := by
  obtain ⟨response, -, hnext⟩ := Option.bind_eq_some_iff.mp h
  exact nextPageIn?_lt hnext

theorem Harvest.pages_of_afterLast {harvest result : Harvest} {page : Nat}
    {visited : Except Failure Response} (h : harvest.afterLast page visited = .ok result) :
    result.pages = harvest.pages := by
  cases visited with
  | ok response =>
      obtain rfl := Except.ok.inj h
      rfl
  | error failure =>
      rw [afterLast] at h
      split at h
      · contradiction
      · split at h <;> obtain rfl := Except.ok.inj h <;> rfl

/-! ## What is asked -/

theorem asked_givingUp (page : Nat) (visited : Except Failure Response) :
    asked (givingUp page visited) = [] := by
  cases visited with
  | ok response => rfl
  | error failure =>
      rw [givingUp]
      split <;> rfl

namespace Harvester

variable (harvester : Harvester) (seed : Seed) (length : Nat) (partner : Partner σ) (state : σ)

theorem asked_waiting (page : Nat) : asked (harvester.waiting page) = [] := by
  rw [waiting]
  split <;> rfl

def visit (page : Nat) : Transcript σ (Except Failure Response) :=
  partner.turn (harvester.fetchPage seed length) 1 state page

theorem exists_asked_visit (page : Nat) :
    ∃ attempts, 1 ≤ attempts ∧ attempts ≤ max 1 harvester.policy.maxAttempts ∧
      asked (harvester.visit seed length partner state page).events =
        (List.range' 1 attempts).map fun number =>
          (.get (harvester.catalogue.pageUrl seed length page), number) := by
  obtain ⟨last, course, -⟩ := harvester.policy.exists_course_fetchWith Response.disposition
    (.get (harvester.catalogue.pageUrl seed length page)) partner
    (partner.stateAfter (harvester.fetchPage seed length) 1 (page - 1) state)
  exact ⟨last, course.first_le, course.le_limit, course.asked_eq⟩

def cursorAfter (count : Nat) : Cursor :=
  Cursor.after (fun number =>
    nextNamed (harvester.visit seed length partner state (number + 1)).value) count

def harvestAfter (count : Nat) : Harvest :=
  ({} : Harvest).withResponses length
    (responses (harvester.visit seed length partner state) (List.range' 1 count))

section Walk

variable {harvester seed length partner state} {last : Nat}
  {harvested : Transcript σ (Except Failure Harvest)}
  (walk : Walk harvester seed length partner state 1 {} harvested last)
include walk

theorem Walk.cursorAfter_eq_at {count : Nat} (h : count < last) :
    harvester.cursorAfter seed length partner state count = .at (count + 1) := by
  induction count with
  | zero => rfl
  | succ count ih =>
      have hnext := leadsOn_iff.mp (walk.leadsOn (count + 1) (by omega) h)
      have hcursor := ih (by omega)
      rw [cursorAfter] at hcursor
      rw [cursorAfter, Cursor.after, hcursor]
      exact Cursor.advance_of_eq hnext (nextNamed_lt hnext)

theorem Walk.cursorAfter_eq_done {count : Nat} (h : last ≤ count) :
    harvester.cursorAfter seed length partner state count = .done := by
  obtain ⟨before, rfl⟩ := Nat.exists_eq_add_of_le' walk.first_le
  have hcursor := walk.cursorAfter_eq_at (Nat.lt_succ_self before)
  refine Cursor.after_eq_done_of_le ?_ h
  rw [cursorAfter] at hcursor
  rw [Cursor.after, hcursor]
  exact Cursor.advance_of_ne fun hnext => walk.stops (leadsOn_iff.mpr hnext)

theorem Walk.asked_eq {requests : Nat → List (Request × Nat)}
    (h : ∀ page, asked (harvester.visit seed length partner state page).events = requests page) :
    asked harvested.events = (List.range' 1 last).flatMap requests := by
  have hvisit (page : Nat) : asked (harvester.waiting page ++
      (harvester.visit seed length partner state page).events) = requests page := by
    rw [asked_append, asked_waiting, List.nil_append, h]
  have hevents := congrArg asked walk.events
  rw [asked_append, asked_givingUp, List.append_nil, asked_flatMap, Nat.add_sub_cancel] at hevents
  exact hevents.trans (List.flatMap_congr fun page _ => hvisit page)

theorem Walk.pages_harvestAfter {count : Nat} (h : count < last) :
    (harvester.harvestAfter seed length partner state count).pages = count := by
  rw [harvestAfter, Harvest.pages_withResponses, length_responses_of_ok]
  · simp
  · intro page hpage
    obtain ⟨hfirst, hlast⟩ := List.mem_range'_1.mp hpage
    obtain ⟨response, hresponse, -⟩ := walk.leadsOn page hfirst (by omega)
    exact ⟨response, hresponse⟩

end Walk

theorem pages_harvestAfter_le (count : Nat) :
    (harvester.harvestAfter seed length partner state count).pages ≤ count := by
  have hlength := List.length_filterMap_le
    (fun page => (harvester.visit seed length partner state page).value.toOption)
    (List.range' 1 count)
  rw [harvestAfter, Harvest.pages_withResponses, responses]
  simpa using hlength

/--
Whoever answers, a harvest ends after fewer pages than a word of 32 bits counts, each of them visited
once and with no more requests than the policy allows.
-/
theorem harvest_ends :
    ∃ (last : Nat) (attempts : Nat → Nat), 1 ≤ last ∧ last ≤ 4294967295 ∧
      (∀ count, count < last →
        harvester.cursorAfter seed length partner state count = .at (count + 1)) ∧
      (∀ count, last ≤ count →
        harvester.cursorAfter seed length partner state count = .done) ∧
      (∀ page, 1 ≤ attempts page ∧ attempts page ≤ max 1 harvester.policy.maxAttempts) ∧
      asked ((harvester.harvest seed length).hold partner state).events =
        (List.range' 1 last).flatMap (fun page =>
          (List.range' 1 (attempts page)).map fun number =>
            (.get (harvester.catalogue.pageUrl seed length page), number)) ∧
      (∀ count, count < last →
        (harvester.harvestAfter seed length partner state count).pages = count) ∧
      (harvester.harvestAfter seed length partner state last).pages ≤ last ∧
      ∀ harvest, ((harvester.harvest seed length).hold partner state).value = .ok harvest →
        harvest.pages = (harvester.harvestAfter seed length partner state last).pages := by
  obtain ⟨last, walk⟩ := harvester.exists_walk seed length partner {} 1 state
  choose attempts hfirst hlimit hasked using
    harvester.exists_asked_visit seed length partner state
  have hfirst_le := walk.first_le
  have hbound : last < Page.pageBound := by
    have hcursor := @Walk.cursorAfter_eq_at _ _ _ _ _ _ _ _ walk (last - 1) (by omega)
    rcases Cursor.after_eq_at_or_done (last - 1) with ⟨-, hlt⟩ | hdone
    · omega
    · rw [cursorAfter, hdone] at hcursor
      contradiction
  refine ⟨last, attempts, hfirst_le, Nat.le_of_lt_succ hbound, fun count => walk.cursorAfter_eq_at,
    fun count => walk.cursorAfter_eq_done, fun page => ⟨hfirst page, hlimit page⟩,
    walk.asked_eq hasked, fun count => walk.pages_harvestAfter,
    harvester.pages_harvestAfter_le .., fun harvest hvalue => ?_⟩
  exact Harvest.pages_of_afterLast (walk.value.symm.trans hvalue)

end Harvester

end WordHunt
