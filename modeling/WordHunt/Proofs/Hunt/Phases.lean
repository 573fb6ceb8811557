import WordHunt.Proofs.Catalogue.Words
import WordHunt.Proofs.Hunt.Consulting
import WordHunt.Proofs.Hunt.LookUp
import WordHunt.Proofs.Hunt.Tasks
import WordHunt.Proofs.Screening
import WordHunt.Settings.Hunter

/-!
# The phases of a hunt

Whatever a hunter is told and whatever it hears, its requests come in three phases: posts to the
scribe, visits to the pages of the catalogue, and look-ups in the dictionary.  Each way in which a
hunt can end early leaves out all the phases behind it.
-/

namespace WordHunt

open Text

variable {σ : Type}

/-! ## Posts to the scribe -/

/-- The last of the exchanges brings a completion with clue lines. -/
def Scribe.IsTold (scribe : Scribe) (posts : List Exchange) (lines : String) : Prop :=
  ∃ exchange ∈ posts.getLast?, ∃ response,
    exchange.reply.Brings scribe.policy.attemptBudget response ∧ response.isSuccess = true ∧
      readCompletion response.body = .ok lines

/-- The exchanges with the service at the endpoint about a player's own words, by one fetch. -/
def Scribe.InsistsOn (scribe : Scribe) (text : String) (posts : List Exchange) : Prop :=
  scribe.policy.Insists
    { method := .post
      url := scribe.endpoint
      headers :=
        [("content-type", "application/json"), ("authorization", "Bearer " ++ scribe.apiKey)]
      body := some (prompt scribe.model text).toText } posts

/--
What is exchanged with the scribe about a task, and the clues that are found out.  Only a player's
own words are put to it, and only if neither they nor the key are blank.
-/
inductive Hunter.Hears (hunter : Hunter) : Task → List Exchange → Option Clues → Prop where
  | byClues (clues : Clues) : Hears hunter (.byClues clues) [] (some clues)
  | byLines (text : String) : Hears hunter (.byLines text) [] (some (.ofText text))
  | noScribe {text : String} (noScribe : hunter.scribe = none) :
      Hears hunter (.byWords text) [] none
  | blank {scribe : Scribe} {text : String} (scribe_eq : hunter.scribe = some scribe)
      (blank : allBlank scribe.apiKey = true ∨ allBlank text = true) :
      Hears hunter (.byWords text) [] none
  | untold {scribe : Scribe} {text : String} {posts : List Exchange}
      (scribe_eq : hunter.scribe = some scribe) (key : allBlank scribe.apiKey = false)
      (words : allBlank text = false)
      (insists : scribe.InsistsOn text posts)
      (untold : ∀ lines, ¬ scribe.IsTold posts lines) :
      Hears hunter (.byWords text) posts none
  | told {scribe : Scribe} {text lines : String} {posts : List Exchange}
      (scribe_eq : hunter.scribe = some scribe) (key : allBlank scribe.apiKey = false)
      (words : allBlank text = false)
      (insists : scribe.InsistsOn text posts)
      (told : scribe.IsTold posts lines) :
      Hears hunter (.byWords text) posts (some (.ofText lines))

theorem Response.disposition_eq_success_iff (response : Response) :
    response.disposition = .success ↔ response.isSuccess = true := by
  rw [disposition]
  split
  · simp [*]
  · split <;> simp [*]

namespace Scribe

variable (scribe : Scribe) {text : String} (partner : Partner σ) (state : σ)

theorem exchanges_write (hkey : allBlank scribe.apiKey = false) (htext : allBlank text = false) :
    (scribe.write text).exchanges partner state =
      (scribe.policy.fetch (scribe.request text)).exchanges partner state := by
  rw [write, hkey, htext]
  simp only [Bool.false_eq_true, if_false, Dialogue.exchanges_seq]
  split <;> exact List.append_nil _

theorem hold_write_eq_ok_iff (hkey : allBlank scribe.apiKey = false)
    (htext : allBlank text = false) (lines : String) :
    ((scribe.write text).hold partner state).value = .ok lines ↔
      scribe.IsTold ((scribe.write text).exchanges partner state) lines := by
  have attempts := scribe.policy.attempts_fetch (scribe.request text) partner state
  have hfetched := attempts.value_eq_ok_iff
  have hvalue : ((scribe.write text).hold partner state).value = .ok lines ↔
      ∃ response, ((scribe.policy.fetch (scribe.request text)).hold partner state).value =
        .ok response ∧ readCompletion response.body = .ok lines := by
    rw [write, hkey, htext]
    simp only [Bool.false_eq_true, if_false, Dialogue.hold_seq]
    cases ((scribe.policy.fetch (scribe.request text)).hold partner state).value <;>
      simp [Dialogue.hold_pure]
  rw [hvalue, scribe.exchanges_write partner state hkey htext]
  simp only [IsTold, hfetched, Response.disposition_eq_success_iff]
  constructor
  · rintro ⟨response, ⟨exchange, hlast, hbrings, hsuccess⟩, hlines⟩
    exact ⟨exchange, hlast, response, hbrings, hsuccess, hlines⟩
  · rintro ⟨exchange, hlast, response, hbrings, hsuccess, hlines⟩
    exact ⟨response, ⟨exchange, hlast, hbrings, hsuccess⟩, hlines⟩

end Scribe

theorem Hunter.hears_understand (hunter : Hunter) (task : Task) (partner : Partner σ)
    (state : σ) :
    hunter.Hears task ((hunter.understand task).exchanges partner state)
      ((hunter.understand task).hold partner state).value.toOption := by
  cases task with
  | byClues clues => exact .byClues clues
  | byLines text => exact .byLines text
  | byWords text =>
      rw [understand]
      cases hscribe : hunter.scribe with
      | none => exact .noScribe hscribe
      | some scribe =>
          simp only [Dialogue.exchanges_seq, Dialogue.exchanges_pure, List.append_nil,
            Dialogue.hold_seq, Dialogue.hold_pure]
          cases hkey : allBlank scribe.apiKey with
          | true =>
              simp only [Scribe.write, hkey, if_true]
              exact .blank hscribe (.inl hkey)
          | false =>
              cases htext : allBlank text with
              | true =>
                  simp only [Scribe.write, hkey, htext, if_true, if_false, Bool.false_eq_true]
                  exact .blank hscribe (.inr htext)
              | false =>
                  have hinsists := scribe.policy.insists_fetch (scribe.request text) partner state
                  have htold := scribe.hold_write_eq_ok_iff partner state hkey htext
                  rw [← scribe.exchanges_write partner state hkey htext] at hinsists
                  cases hwritten : ((scribe.write text).hold partner state).value with
                  | error failure =>
                      refine .untold hscribe hkey htext hinsists fun lines h => ?_
                      rw [← htold, hwritten] at h
                      contradiction
                  | ok lines =>
                      exact .told hscribe hkey htext hinsists ((htold lines).mp hwritten)

/-! ## Visits to the catalogue -/

namespace Harvester

variable (harvester : Harvester) (seed : Seed) (length : Nat)

structure Visits (first : Nat) (visits : List (List Exchange)) : Prop where
  ne_nil : visits ≠ []
  insists : ∀ number visit, visits[number]? = some visit →
    harvester.policy.Insists
      (.get (harvester.catalogue.pageUrl seed length (first + number))) visit

theorem exchanges_waitFor {α : Type} (page : Nat) (next : Dialogue α) (partner : Partner σ)
    (state : σ) :
    (harvester.waitFor page next).exchanges partner state = next.exchanges partner state := by
  rw [waitFor]
  split <;> rfl

variable {harvester seed length}

theorem Visits.single {page : Nat} {visit : List Exchange}
    (h : harvester.policy.Insists (.get (harvester.catalogue.pageUrl seed length page)) visit) :
    harvester.Visits seed length page [visit] := by
  refine ⟨by simp, fun number other hother => ?_⟩
  cases number with
  | zero =>
      obtain rfl := Option.some.inj hother
      exact h
  | succ number => simp at hother

theorem Visits.cons {page : Nat} {visit : List Exchange} {visits : List (List Exchange)}
    (h : harvester.policy.Insists (.get (harvester.catalogue.pageUrl seed length page)) visit)
    (rest : harvester.Visits seed length (page + 1) visits) :
    harvester.Visits seed length page (visit :: visits) := by
  refine ⟨by simp, fun number other hother => ?_⟩
  cases number with
  | zero =>
      obtain rfl := Option.some.inj hother
      exact h
  | succ number =>
      have hnumber : page + (number + 1) = page + 1 + number := by omega
      rw [hnumber]
      exact rest.insists number other hother

variable (harvester seed length)

theorem exists_visits_harvestFrom (harvest : Harvest) (page : Nat) (partner : Partner σ)
    (state : σ) :
    ∃ visits, (harvester.harvestFrom seed length harvest page).exchanges partner state =
      visits.flatten ∧ harvester.Visits seed length page visits := by
  induction harvest, page using harvestFrom.induct length generalizing state with
  | case1 harvest page ih =>
      have hinsists : harvester.policy.Insists _
          ((harvester.fetchPage seed length page).exchanges partner state) :=
        harvester.policy.insists_fetch _ partner state
      -- Nothing is asked after the visit unless there is a next page.
      rw [harvestFrom, exchanges_waitFor, Dialogue.exchanges_seq]
      cases ((harvester.fetchPage seed length page).hold partner state).value with
      | error failure =>
          refine ⟨[(harvester.fetchPage seed length page).exchanges partner state], ?_,
            .single hinsists⟩
          dsimp only
          split
          · simp [Dialogue.exchanges_pure]
          · split <;> simp [Dialogue.exchanges_pure, Dialogue.exchanges]
      | ok response =>
          dsimp only
          split
          · exact ⟨[(harvester.fetchPage seed length page).exchanges partner state],
              by simp [Dialogue.exchanges_pure], .single hinsists⟩
          · next next hnext =>
            obtain ⟨visits, hrest, hvisits⟩ := ih response next hnext
              ((harvester.fetchPage seed length page).hold partner state).state
            obtain ⟨rfl, -⟩ := Cursor.advance_eq_at hnext
            exact ⟨_ :: visits, by rw [hrest, List.flatten_cons], .cons hinsists hvisits⟩

end Harvester

/-! ## The phases of a hunt -/

def Settings.hunterWith (settings : Settings) (validate : Bool) (verdicts : Verdicts) : Hunter :=
  { settings.toHunter validate with verdicts }

namespace Hunter

variable (hunter : Hunter) (otherwise : Request → Reply) (replies : List Reply)

/-- What a harvest comes to after the posts to the scribe. -/
def harvestAfterPosts (posts : List Exchange) (seed : Seed) (clues : Clues) :
    Except Failure Harvest :=
  ((hunter.harvester.harvest seed clues.length).hold (.script otherwise)
    (replies.drop posts.length)).value

/--
The posts, visits and look-ups of a hunt with a script of replies, for each way in which the hunt
can go.  With a dictionary and a harvest that is kept, each accepted word that nothing is
remembered about is looked up once, in alphabetical order.
-/
inductive Phases (task : Task) :
    (posts : List Exchange) → (visits : List (List Exchange)) → (lookups : List Exchange) →
      Prop where
  | unheard {posts : List Exchange} (hears : hunter.Hears task posts none) :
      Phases task posts [] []
  | noSeed {posts : List Exchange} {clues : Clues} (hears : hunter.Hears task posts (some clues))
      (noSeed : clues.seed? = none) :
      Phases task posts [] []
  | lost {posts : List Exchange} {visits : List (List Exchange)} {clues : Clues} {seed : Seed}
      (hears : hunter.Hears task posts (some clues)) (hseed : clues.seed? = some seed)
      (visited : hunter.harvester.Visits seed clues.length 1 visits)
      (lost : ∀ harvest,
        hunter.harvestAfterPosts otherwise replies posts seed clues = .ok harvest →
          harvest.abandoned ≠ none) :
      Phases task posts visits []
  | noDictionary {posts : List Exchange} {visits : List (List Exchange)} {clues : Clues}
      {seed : Seed} (hears : hunter.Hears task posts (some clues))
      (hseed : clues.seed? = some seed)
      (visited : hunter.harvester.Visits seed clues.length 1 visits)
      (noDictionary : hunter.dictionary = none) :
      Phases task posts visits []
  | lookedUp {posts : List Exchange} {visits : List (List Exchange)} {lookups : List Exchange}
      {clues : Clues} {seed : Seed} {harvest : Harvest} {dictionary : Dictionary}
      (hears : hunter.Hears task posts (some clues)) (hseed : clues.seed? = some seed)
      (visited : hunter.harvester.Visits seed clues.length 1 visits)
      (hharvest : hunter.harvestAfterPosts otherwise replies posts seed clues = .ok harvest)
      (kept : harvest.abandoned = none) (hdictionary : hunter.dictionary = some dictionary)
      (sorted : (clues.screen harvest.words.toList).accepted.SortedLT)
      (asked : lookups.map Exchange.asked =
        ((clues.screen harvest.words.toList).accepted.filter fun word =>
          (hunter.verdicts.get? word clues.length).isNone).map fun word =>
            (.get (dictionary.lookupUrl ++ lowerCase word), 1)) :
      Phases task posts visits lookups

theorem sortedLT_accepted {seed : Seed} {clues : Clues} {harvest : Harvest}
    {partner : Partner σ} {state : σ}
    (hvalue : ((hunter.harvester.harvest seed clues.length).hold partner state).value =
      .ok harvest)
    (hkept : harvest.abandoned = none) :
    (clues.screen harvest.words.toList).accepted.SortedLT ∧
      ∀ word ∈ (clues.screen harvest.words.toList).accepted,
        IsCapitals word.toList ∧ word.length = clues.length := by
  have hwords : ∀ word ∈ harvest.words.toList,
      IsCapitals word.toList ∧ word.length = clues.length := fun word hword =>
    have hserved := (Harvester.mem_words_iff_mem_served hvalue hkept).mp
      (Std.ExtTreeSet.mem_toList.mp hword)
    ⟨Harvester.isCapitals_of_mem_served hserved, Harvester.length_of_mem_served hserved⟩
  rw [clues.accepted_of_isCapitals _ fun word hword => (hwords word hword).1]
  exact ⟨(harvest.sortedLT_words.pairwise.sublist List.filter_sublist).sortedLT,
    fun word hword => hwords word (List.mem_of_mem_filter hword)⟩

theorem exists_phases (task : Task) :
    ∃ posts visits lookups,
      (hunter.pursue task).exchanges (.script otherwise) replies =
        posts ++ visits.flatten ++ lookups ∧
      hunter.Phases otherwise replies task posts visits lookups := by
  have hears := hunter.hears_understand task (.script otherwise) replies
  have hstate := Dialogue.state_hold_script otherwise (hunter.understand task) replies
  have hvisits := fun seed (clues : Clues) =>
    hunter.harvester.exists_visits_harvestFrom seed clues.length {} 1 (.script otherwise)
      ((hunter.understand task).hold (.script otherwise) replies).state
  rw [exchanges_pursue]
  cases hgathered : ((hunter.gather task).hold (.script otherwise) replies).value with
  | kept clues seed harvest =>
      obtain ⟨hvalue, hseed, hharvest, hkept⟩ :=
        (hunter.hold_gather_eq_kept_iff _ _ task).mp hgathered
      obtain ⟨visits, hflatten, hvisits⟩ := hvisits seed clues
      obtain ⟨hsorted, hwords⟩ := hunter.sortedLT_accepted hharvest hkept
      rw [hvalue] at hears
      rw [hunter.exchanges_gather_of_seed hvalue hseed, Harvester.harvest, hflatten,
        hunter.consultations_of_kept hgathered]
      refine ⟨_, visits, _, rfl, ?_⟩
      cases hdictionary : hunter.dictionary with
      | none =>
          rw [hunter.lookUp_of_no_dictionary _ hdictionary]
          exact .noDictionary hears hseed hvisits hdictionary
      | some dictionary =>
          rw [hstate] at hharvest
          refine .lookedUp hears hseed hvisits hharvest hkept hdictionary hsorted ?_
          rw [lookUp, hdictionary]
          exact hunter.asked_lookUpFrom dictionary _ _ _ _ _ _
            (fun word hword => (hwords word hword).2) hsorted.nodup
  | ended ends =>
      rw [hunter.consultations_of_ended hgathered]
      cases hvalue : ((hunter.understand task).hold (.script otherwise) replies).value with
      | error failure =>
          rw [hvalue] at hears
          rw [hunter.exchanges_gather_of_error hvalue]
          exact ⟨_, [], [], by simp, .unheard hears⟩
      | ok clues =>
          rw [hvalue] at hears
          cases hseed : clues.seed? with
          | none =>
              rw [hunter.exchanges_gather_of_noSeed hvalue hseed]
              exact ⟨_, [], [], by simp, .noSeed hears hseed⟩
          | some seed =>
              obtain ⟨visits, hflatten, hvisits⟩ := hvisits seed clues
              rw [hunter.exchanges_gather_of_seed hvalue hseed, Harvester.harvest, hflatten]
              refine ⟨_, visits, [], rfl,
                .lost hears hseed hvisits fun harvest hharvest hkept => ?_⟩
              -- A harvest that is kept would have been gathered.
              rw [harvestAfterPosts, ← hstate] at hharvest
              have hcontra := (hunter.hold_gather_eq_kept_iff _ _ task).mpr
                ⟨hvalue, hseed, hharvest, hkept⟩
              rw [hgathered] at hcontra
              contradiction

/--
Whatever a hunter of the given settings is told, remembers and hears, its requests are posts to
the scribe, visits to the catalogue and look-ups in the dictionary, in phases one after the other.
They take the replies of the script in their order, one each as long as any is left.
-/
theorem pursue_in_phases (settings : Settings) (validate : Bool) (verdicts : Verdicts)
    (task : Task) (otherwise : Request → Reply) (replies : List Reply) :
    ∃ posts visits lookups,
      (settings.hunterWith validate verdicts).Phases otherwise replies task posts visits
        lookups ∧
      ((settings.hunterWith validate verdicts).pursue task).exchanges (.script otherwise)
        replies = posts ++ visits.flatten ++ lookups ∧
      asked (((settings.hunterWith validate verdicts).pursue task).hold (.script otherwise)
        replies).events = (posts ++ visits.flatten ++ lookups).map Exchange.asked ∧
      (((settings.hunterWith validate verdicts).pursue task).hold (.script otherwise)
        replies).state = replies.drop (posts ++ visits.flatten ++ lookups).length ∧
      ((posts ++ visits.flatten ++ lookups).map Exchange.reply).take replies.length =
        replies.take (posts ++ visits.flatten ++ lookups).length := by
  obtain ⟨posts, visits, lookups, hexchanges, phases⟩ :=
    (settings.hunterWith validate verdicts).exists_phases otherwise replies task
  refine ⟨posts, visits, lookups, phases, hexchanges, ?_, ?_, ?_⟩
  · rw [Dialogue.asked_events_hold, hexchanges]
  · rw [Dialogue.state_hold_script, hexchanges]
  · rw [← hexchanges, Dialogue.reply_exchanges_script]

end Hunter

end WordHunt
