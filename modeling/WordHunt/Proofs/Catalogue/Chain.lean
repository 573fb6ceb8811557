import Mathlib.Data.List.Basic
import Mathlib.Data.Nat.Init
import WordHunt.Catalogue.Harvest
import WordHunt.Proofs.Exchange.Series
import WordHunt.Proofs.Text.Numeral

/-!
# The chain of pages that a harvest visits

A harvest is a series of visits, one to each page.  The chain of pages begins with page one and
goes on as long as a visit succeeds and its page names the very next one.  A harvest visits the
pages of its chain in their order, each once, and its value is decided by the last visit: what
was gathered on the way is kept as a whole or not at all.
-/

namespace WordHunt

variable {σ : Type}

/-- What has been visited is a page, and it names the page after `page` as its next. -/
def LeadsOn (page : Nat) (visited : Except Failure Response) : Prop :=
  ∃ response, visited = .ok response ∧ Page.nextPageIn? response.body = some (page + 1)

/-- The pages of a chain of visits: page one, and after a page that leads on the next one. -/
inductive Reaches (visit : Nat → Transcript σ (Except Failure Response)) : Nat → Prop where
  | first : Reaches visit 1
  | next {page : Nat} (reached : Reaches visit page)
      (leadsOn : LeadsOn page (visit page).value) : Reaches visit (page + 1)

def responses (visit : Nat → Transcript σ (Except Failure Response)) (pages : List Nat) :
    List Response :=
  pages.filterMap fun page => (visit page).value.toOption

theorem responses_cons (visit : Nat → Transcript σ (Except Failure Response)) (page : Nat)
    (pages : List Nat) :
    responses visit (page :: pages) =
      (visit page).value.toOption.toList ++ responses visit pages := by
  cases hvalue : (visit page).value <;>
    simp [responses, hvalue, Except.toOption]

theorem responses_congr {visit other : Nat → Transcript σ (Except Failure Response)}
    {pages : List Nat} (h : ∀ page ∈ pages, visit page = other page) :
    responses visit pages = responses other pages :=
  List.filterMap_congr fun page hpage => by rw [h page hpage]

theorem length_responses_of_ok {visit : Nat → Transcript σ (Except Failure Response)}
    {pages : List Nat} (h : ∀ page ∈ pages, ∃ response, (visit page).value = .ok response) :
    (responses visit pages).length = pages.length := by
  induction pages with
  | nil => rfl
  | cons page pages ih =>
      obtain ⟨response, hresponse⟩ := h page List.mem_cons_self
      rw [responses_cons, hresponse, List.length_append,
        ih fun other hother => h other (List.mem_cons_of_mem page hother), List.length_cons]
      simp only [Except.toOption, Option.toList_some, List.length_singleton]
      omega

/-! ## Page numbers -/

theorem nextPageIn?_lt {body : String} {next : Nat} (h : Page.nextPageIn? body = some next) :
    next < Page.pageBound := by
  obtain ⟨anchor, -, hanchor⟩ := List.exists_of_findSome?_eq_some h
  simp only [Page.Anchor.nextPage?] at hanchor
  split at hanchor
  · obtain ⟨digits, -, hdigits⟩ := Option.bind_eq_some_iff.mp hanchor
    exact Text.readNumeral_lt hdigits
  · contradiction

namespace Cursor

theorem advance_of_eq {page : Nat} {declared : Option Nat}
    (h : declared = some (page + 1)) (hbound : page + 1 < Page.pageBound) :
    (Cursor.at page).advance declared = .at (page + 1) := by
  simp [advance, h, hbound]

theorem advance_of_ne {page : Nat} {declared : Option Nat} (h : declared ≠ some (page + 1)) :
    (Cursor.at page).advance declared = .done := by
  cases declared with
  | none => rfl
  | some next =>
      have hne : page + 1 ≠ next := fun heq => h (heq ▸ rfl)
      simp [advance, hne]

end Cursor

/-! ## Harvests -/

namespace Harvest

variable (harvest : Harvest) (found : List String)

@[simp] theorem pages_withPage : (harvest.withPage found).pages = harvest.pages + 1 := by
  rw [withPage]

@[simp] theorem abandoned_withPage : (harvest.withPage found).abandoned = harvest.abandoned := by
  rw [withPage]

@[simp] theorem mem_withPage (word : String) :
    word ∈ (harvest.withPage found).words ↔ word ∈ harvest.words ∨ word ∈ found := by
  simp [withPage]

end Harvest

def Harvest.withResponses (length : Nat) (harvest : Harvest) (gathered : List Response) :
    Harvest :=
  gathered.foldl (fun harvest response => harvest.withPage (Page.wordsIn length response.body))
    harvest

namespace Harvest

variable (length : Nat) (harvest : Harvest) (gathered : List Response)

theorem withResponses_append (more : List Response) :
    harvest.withResponses length (gathered ++ more) =
      (harvest.withResponses length gathered).withResponses length more :=
  List.foldl_append

theorem pages_withResponses :
    (harvest.withResponses length gathered).pages = harvest.pages + gathered.length := by
  induction gathered generalizing harvest with
  | nil => rfl
  | cons response gathered ih =>
      rw [withResponses, List.foldl_cons, ← withResponses, ih, pages_withPage, List.length_cons]
      omega

theorem abandoned_withResponses :
    (harvest.withResponses length gathered).abandoned = harvest.abandoned := by
  induction gathered generalizing harvest with
  | nil => rfl
  | cons response gathered ih =>
      rw [withResponses, List.foldl_cons, ← withResponses, ih, abandoned_withPage]

theorem mem_withResponses (word : String) :
    word ∈ (harvest.withResponses length gathered).words ↔
      word ∈ harvest.words ∨
        ∃ response ∈ gathered, word ∈ Page.wordsIn length response.body := by
  induction gathered generalizing harvest with
  | nil => simp [withResponses]
  | cons response gathered ih =>
      rw [withResponses, List.foldl_cons, ← withResponses, ih]
      simp [or_assoc]

end Harvest

def Harvest.afterLast (harvest : Harvest) (page : Nat) :
    Except Failure Response → Except Failure Harvest
  | .ok _ => .ok harvest
  | .error failure =>
      if page ≤ 1 then .error failure
      else if failure.isNotFound then .ok harvest
      else .ok { pages := harvest.pages, abandoned := some ⟨page, failure.message⟩ }

def givingUp (page : Nat) : Except Failure Response → List Event
  | .ok _ => []
  | .error failure =>
      if page ≤ 1 ∨ failure.isNotFound then [] else [.warn "page failed, abandoning seed"]

namespace Harvester

variable (harvester : Harvester) (seed : Seed) (length : Nat) (partner : Partner σ)

def waiting (page : Nat) : List Event :=
  if 1 < page then [.pause harvester.pageDelay] else []

theorem hold_waitFor {α : Type} (page : Nat) (next : Dialogue α) (state : σ) :
    (harvester.waitFor page next).hold partner state =
      { next.hold partner state with
        events := harvester.waiting page ++ (next.hold partner state).events } := by
  by_cases hpage : 1 < page <;> simp [waitFor, waiting, hpage, Dialogue.hold]

theorem hold_harvestFrom_of_leadsOn {page : Nat} {state : σ} (harvest : Harvest)
    (h : LeadsOn page ((harvester.fetchPage seed length page).hold partner state).value) :
    (harvester.harvestFrom seed length harvest page).hold partner state =
      let visited := (harvester.fetchPage seed length page).hold partner state
      let rest := (harvester.harvestFrom seed length
        (harvest.withResponses length visited.value.toOption.toList) (page + 1)).hold partner
          visited.state
      { rest with events := harvester.waiting page ++ visited.events ++ rest.events } := by
  obtain ⟨response, hresponse, hnext⟩ := h
  have hadvance := Cursor.advance_of_eq hnext (nextPageIn?_lt hnext)
  rw [harvestFrom, hold_waitFor, Dialogue.hold_seq]
  simp only [hresponse, Page.ofBody]
  split
  · rename_i hdone
    rw [hdone] at hadvance
    contradiction
  · rename_i next hat
    rw [hat] at hadvance
    cases hadvance
    simp [Harvest.withResponses, Except.toOption]

theorem hold_harvestFrom_of_not_leadsOn {page : Nat} {state : σ} (harvest : Harvest)
    (h : ¬ LeadsOn page ((harvester.fetchPage seed length page).hold partner state).value) :
    (harvester.harvestFrom seed length harvest page).hold partner state =
      let visited := (harvester.fetchPage seed length page).hold partner state
      { visited with
        value := (harvest.withResponses length visited.value.toOption.toList).afterLast page
          visited.value
        events := harvester.waiting page ++ visited.events ++ givingUp page visited.value } := by
  rw [harvestFrom, hold_waitFor, Dialogue.hold_seq]
  generalize (harvester.fetchPage seed length page).hold partner state = visited at h ⊢
  obtain ⟨value, events, state⟩ := visited
  cases value with
  | error failure =>
      by_cases hpage : page ≤ 1
      · simp [hpage, Harvest.afterLast, givingUp, Dialogue.hold_pure]
      · by_cases hfailure : failure.isNotFound <;>
          simp [hpage, hfailure, Harvest.afterLast, givingUp, Dialogue.hold_pure, Dialogue.hold,
            Harvest.withResponses, Except.toOption]
  | ok response =>
      have hnext : Page.nextPageIn? response.body ≠ some (page + 1) :=
        fun hnext => h ⟨response, rfl, hnext⟩
      have hadvance := Cursor.advance_of_ne hnext
      simp only [Page.ofBody]
      split
      · simp [Harvest.afterLast, givingUp, Dialogue.hold_pure, Harvest.withResponses,
          Except.toOption]
      · rename_i next hat
        rw [hat] at hadvance
        contradiction

/-! ## Walks along the chain -/

/-- A harvest that visits the pages from `first` to `last`, after what was harvested so far. -/
structure Walk (state : σ) (first : Nat) (harvest : Harvest)
    (harvested : Transcript σ (Except Failure Harvest)) (last : Nat) : Prop where
  first_le : first ≤ last
  leadsOn : ∀ page, first ≤ page → page < last →
    LeadsOn page (partner.turn (harvester.fetchPage seed length) first state page).value
  stops : ¬ LeadsOn last (partner.turn (harvester.fetchPage seed length) first state last).value
  value : harvested.value =
    (harvest.withResponses length
      (responses (partner.turn (harvester.fetchPage seed length) first state)
        (List.range' first (last + 1 - first)))).afterLast last
      (partner.turn (harvester.fetchPage seed length) first state last).value
  events : harvested.events =
    ((List.range' first (last + 1 - first)).flatMap fun page =>
      harvester.waiting page ++
        (partner.turn (harvester.fetchPage seed length) first state page).events) ++
      givingUp last (partner.turn (harvester.fetchPage seed length) first state last).value
  state : harvested.state =
    (partner.turn (harvester.fetchPage seed length) first state last).state

theorem Walk.single {state : σ} {page : Nat} (harvest : Harvest)
    (h : ¬ LeadsOn page ((harvester.fetchPage seed length page).hold partner state).value) :
    Walk harvester seed length partner state page harvest
      ((harvester.harvestFrom seed length harvest page).hold partner state) page := by
  have hcount : page + 1 - page = 1 := by omega
  rw [harvester.hold_harvestFrom_of_not_leadsOn seed length partner harvest h]
  refine ⟨Nat.le_refl _, fun other hfirst hlast => absurd hfirst (by omega), ?_, ?_, ?_, ?_⟩
  · simpa using h
  · rw [hcount, List.range'_one, responses_cons, partner.turn_first]
    simp [responses]
  · simp [hcount]
  · simp

theorem Walk.cons {state : σ} {page last : Nat} (harvest : Harvest)
    (h : LeadsOn page ((harvester.fetchPage seed length page).hold partner state).value)
    (walk : Walk harvester seed length partner
      ((harvester.fetchPage seed length page).hold partner state).state (page + 1)
      (harvest.withResponses length
        ((harvester.fetchPage seed length page).hold partner state).value.toOption.toList)
      ((harvester.harvestFrom seed length (harvest.withResponses length
        ((harvester.fetchPage seed length page).hold partner state).value.toOption.toList)
        (page + 1)).hold partner
          ((harvester.fetchPage seed length page).hold partner state).state) last) :
    Walk harvester seed length partner state page harvest
      ((harvester.harvestFrom seed length harvest page).hold partner state) last := by
  have hlt : page < last := walk.first_le
  have hturn {number : Nat} (hnumber : page < number) :=
    partner.turn_of_lt (harvester.fetchPage seed length) hnumber state
  simp only [partner.turn_first] at hturn
  have hturns : ∀ number ∈ List.range' (page + 1) (last + 1 - (page + 1)),
      partner.turn (harvester.fetchPage seed length) page state number =
        partner.turn (harvester.fetchPage seed length) (page + 1)
          ((harvester.fetchPage seed length page).hold partner state).state number :=
    fun number hnumber => hturn (List.mem_range'_1.mp hnumber).1
  have hcount : last + 1 - page = last + 1 - (page + 1) + 1 := by omega
  rw [harvester.hold_harvestFrom_of_leadsOn seed length partner harvest h]
  refine ⟨Nat.le_of_lt hlt, fun other hfirst hlast => ?_, ?_, ?_, ?_, ?_⟩
  · rcases Nat.eq_or_lt_of_le hfirst with rfl | hfirst
    · simpa using h
    · rw [hturn hfirst]
      exact walk.leadsOn other hfirst hlast
  · rw [hturn hlt]
    exact walk.stops
  · rw [hcount, List.range'_succ, responses_cons, responses_congr hturns, partner.turn_first,
      Harvest.withResponses_append, hturn hlt]
    exact walk.value
  · rw [hcount, List.range'_succ, List.flatMap_cons, partner.turn_first, hturn hlt,
      List.flatMap_congr fun number hnumber => by rw [hturns number hnumber]]
    simp only [walk.events, List.append_assoc]
  · rw [hturn hlt]
    exact walk.state

theorem exists_walk (harvest : Harvest) (page : Nat) (state : σ) :
    ∃ last, Walk harvester seed length partner state page harvest
      ((harvester.harvestFrom seed length harvest page).hold partner state) last := by
  -- A page that leads on is followed by the walk that the harvest takes from the next one.
  induction harvest, page using harvestFrom.induct length generalizing state with
  | case1 harvest page ih =>
      by_cases hleads :
          LeadsOn page ((harvester.fetchPage seed length page).hold partner state).value
      · obtain ⟨response, hresponse, hnext⟩ := id hleads
        obtain ⟨last, walk⟩ := ih response (page + 1)
          (Cursor.advance_of_eq hnext (nextPageIn?_lt hnext))
          ((harvester.fetchPage seed length page).hold partner state).state
        refine ⟨last, .cons harvester seed length partner harvest hleads ?_⟩
        simpa [hresponse, Harvest.withResponses, Except.toOption, Page.ofBody] using walk
      · exact ⟨page, .single harvester seed length partner harvest hleads⟩

section Walk

variable {harvester seed length partner} {state : σ} {first last : Nat} {harvest : Harvest}
  {harvested : Transcript σ (Except Failure Harvest)}

theorem Walk.reaches_iff
    (walk : Walk harvester seed length partner state 1 harvest harvested last) (page : Nat) :
    Reaches (partner.turn (harvester.fetchPage seed length) 1 state) page ↔
      1 ≤ page ∧ page ≤ last := by
  constructor
  · intro h
    induction h with
    | first => exact ⟨Nat.le_refl _, walk.first_le⟩
    | @next page reached leadsOn ih =>
        have hne : page ≠ last := fun heq => walk.stops (heq ▸ leadsOn)
        omega
  · rintro ⟨hfirst, hlast⟩
    induction page, hfirst using Nat.le_induction with
    | base => exact .first
    | succ page hfirst ih => exact .next (ih (by omega)) (walk.leadsOn page hfirst hlast)

theorem Walk.last_lt
    (walk : Walk harvester seed length partner state 1 harvest harvested last) :
    last < Page.pageBound := by
  rcases Nat.eq_or_lt_of_le walk.first_le with rfl | hlt
  · decide
  · obtain ⟨response, -, hnext⟩ := walk.leadsOn (last - 1) (by omega) (by omega)
    have hbound := nextPageIn?_lt hnext
    omega

theorem Walk.last_eq_one
    (walk : Walk harvester seed length partner state 1 harvest harvested last)
    {failure : Failure}
    (h : (partner.turn (harvester.fetchPage seed length) 1 state 1).value = .error failure) :
    last = 1 := by
  rcases Nat.eq_or_lt_of_le walk.first_le with heq | hlt
  · exact heq.symm
  · obtain ⟨response, hresponse, -⟩ := walk.leadsOn 1 (Nat.le_refl _) hlt
    rw [h] at hresponse
    contradiction

theorem Walk.length_responses
    (walk : Walk harvester seed length partner state 1 harvest harvested last)
    {failure : Failure}
    (h : (partner.turn (harvester.fetchPage seed length) 1 state last).value = .error failure) :
    (responses (partner.turn (harvester.fetchPage seed length) 1 state)
      (List.range' 1 last)).length = last - 1 := by
  obtain ⟨before, rfl⟩ := Nat.exists_eq_add_of_le' walk.first_le
  rw [List.range'_1_concat, responses, List.filterMap_append, List.length_append,
    ← responses, length_responses_of_ok]
  · simp [Nat.add_comm 1 before, h, Except.toOption]
  · intro page hpage
    obtain ⟨hfirst, hlast⟩ := List.mem_range'_1.mp hpage
    obtain ⟨response, hresponse, -⟩ := walk.leadsOn page hfirst (by omega)
    exact ⟨response, hresponse⟩

theorem Walk.value_of_kept
    (walk : Walk harvester seed length partner state first harvest harvested last)
    (h : (∃ response,
        (partner.turn (harvester.fetchPage seed length) first state last).value = .ok response) ∨
      (1 < last ∧ ∃ failure,
        (partner.turn (harvester.fetchPage seed length) first state last).value = .error failure ∧
          failure.status? = some 404)) :
    harvested.value = .ok (harvest.withResponses length
      (responses (partner.turn (harvester.fetchPage seed length) first state)
        (List.range' first (last + 1 - first)))) := by
  rw [walk.value]
  rcases h with ⟨response, hresponse⟩ | ⟨hlast, failure, hfailure, hstatus⟩
  · rw [hresponse, Harvest.afterLast]
  · have hpage : ¬ last ≤ 1 := by omega
    simp [hfailure, Harvest.afterLast, hpage, Failure.isNotFound, hstatus]

end Walk

/--
A harvest visits the pages of its chain in their order, each by one fetch of its address and with
one pause before each but the first.  It fails with the fetch of page one; it keeps all words of
its pages when the last fetch succeeds or finds no page; and it keeps none when a later fetch fails
in any other way.
-/
theorem harvest_keeps_all_or_nothing (state : σ) :
    let visit : Nat → Transcript σ (Except Failure Response) :=
      partner.turn
        (fun page => harvester.policy.fetch (.get (harvester.catalogue.pageUrl seed length page)))
        1 state
    let harvested : Transcript σ (Except Failure Harvest) :=
      (harvester.harvest seed length).hold partner state
    ∃ last, (∀ page, Reaches visit page ↔ 1 ≤ page ∧ page ≤ last) ∧
      last < Page.pageBound ∧
      harvested.state = (visit last).state ∧
      harvested.events =
        ((List.range' 1 last).flatMap fun page =>
          (if 1 < page then [.pause harvester.pageDelay] else []) ++ (visit page).events) ++
          givingUp last (visit last).value ∧
      (∀ failure, (visit 1).value = .error failure → harvested.value = .error failure) ∧
      ((∃ response, (visit last).value = .ok response) ∨
          (1 < last ∧ ∃ failure, (visit last).value = .error failure ∧
            failure.status? = some 404) →
        ∃ harvest, harvested.value = .ok harvest ∧ harvest.abandoned = none ∧
          harvest.pages = (responses visit (List.range' 1 last)).length ∧
          ∀ word, word ∈ harvest.words ↔
            ∃ response ∈ responses visit (List.range' 1 last),
              word ∈ Page.wordsIn length response.body) ∧
      (∀ failure, 1 < last → (visit last).value = .error failure →
        failure.status? ≠ some 404 →
        harvested.value =
          .ok { words := ∅, pages := last - 1, abandoned := some ⟨last, failure.message⟩ }) := by
  intro visit harvested
  have hvisit : visit = partner.turn (harvester.fetchPage seed length) 1 state := rfl
  obtain ⟨last, walk⟩ : ∃ last, Walk harvester seed length partner state 1 {} harvested last :=
    harvester.exists_walk seed length partner {} 1 state
  refine ⟨last, walk.reaches_iff, walk.last_lt, walk.state, ?_, ?_, ?_, ?_⟩
  · exact walk.events
  · intro failure hfailure
    obtain rfl := walk.last_eq_one hfailure
    rw [hvisit] at hfailure
    rw [walk.value, hfailure]
    simp [Harvest.afterLast]
  · intro hkept
    refine ⟨_, walk.value_of_kept hkept, ?_, ?_, fun word => ?_⟩
    · rw [Harvest.abandoned_withResponses]
    · simp [Harvest.pages_withResponses, hvisit]
    · simp [Harvest.mem_withResponses, hvisit]
  · intro failure hlast hfailure hstatus
    have hnotFound : failure.isNotFound = false := by
      simpa [Failure.isNotFound] using hstatus
    have hpage : ¬ last ≤ 1 := by omega
    have hpages := walk.length_responses hfailure
    rw [hvisit] at hfailure
    rw [walk.value, hfailure]
    simp [Harvest.afterLast, hpage, hnotFound, Harvest.pages_withResponses, hpages]

end Harvester

end WordHunt
