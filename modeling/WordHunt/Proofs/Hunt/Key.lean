import WordHunt.Description
import WordHunt.Proofs.Exchange.Veiled
import WordHunt.Proofs.Hunt.Report
import WordHunt.Proofs.Hunt.Tasks
import WordHunt.Settings.Hunter

/-!
# The key of a scribe is kept

The key of a scribe goes into the authorization of its requests and nowhere else.  Two hunters that
differ in their keys, none of which is blank, hold dialogues that are alike but for this, whatever
they are told to do, and they are described in the same words.
-/

namespace WordHunt

open Text Dialogue

variable {σ : Type}

theorem alike_attemptFrom (classify : Response → Disposition) {request other : Request}
    (hveiled : request.veiled = other.veiled) (budget : Duration) (left number : Nat)
    (backoff : Duration) :
    Alike Eq (attemptFrom classify request budget left number backoff)
      (attemptFrom classify other budget left number backoff) := by
  have hurl := Request.url_eq_of_veiled hveiled
  induction left generalizing number backoff with
  | zero =>
      rw [attemptFrom, attemptFrom]
      refine .ask hveiled fun reply => ?_
      rw [hurl]
      exact .refl _
  | succ left ih =>
      rw [attemptFrom, attemptFrom]
      refine .ask hveiled fun reply => ?_
      rw [hurl]
      cases (⟨number, budget⟩ : Attempt).result classify reply with
      | success response => exact .refl _
      | fatal response => exact .refl _
      | setback cause => exact .warn (.pause (ih (number + 1) backoff.double))

/-! ## Scribes -/

namespace Scribe

def withKey (scribe : Scribe) (key : String) : Scribe :=
  { scribe with apiKey := key }

variable (scribe : Scribe) (key other : String)

theorem veiled_request (text : String) :
    ((scribe.withKey key).request text).veiled = ((scribe.withKey other).request text).veiled := by
  simp [request, withKey, Request.veiled, Request.withHeader, Request.postJson]

variable {key other}

theorem alike_write (hkey : allBlank key = false) (hother : allBlank other = false)
    (text : String) :
    Alike Eq ((scribe.withKey key).write text) ((scribe.withKey other).write text) := by
  have hveiled := scribe.veiled_request key other text
  have hfetch : Alike Eq (scribe.policy.fetch ((scribe.withKey key).request text))
      (scribe.policy.fetch ((scribe.withKey other).request text)) :=
    alike_attemptFrom _ hveiled ..
  simp only [write, withKey, hkey, hother, Bool.false_eq_true, if_false] at hfetch ⊢
  split
  · exact .refl _
  · apply hfetch.seq
    rintro fetched _ rfl
    exact .refl _

end Scribe

/-! ## Hunters -/

namespace Hunter

def withKey (hunter : Hunter) (key : String) : Hunter :=
  { hunter with scribe := hunter.scribe.map (·.withKey key) }

theorem description_withKey (hunter : Hunter) (key : String) :
    (hunter.withKey key).description = hunter.description := by
  rw [description, description, withKey]
  cases hunter.scribe <;> rfl

theorem lookUp_withKey (hunter : Hunter) (key : String) (length : Nat) (words : List String) :
    (hunter.withKey key).lookUp length words = hunter.lookUp length words := by
  have hfrom (dictionary : Dictionary) (asked : Bool) (verdicts : Verdicts)
      (words : List String) :
      (hunter.withKey key).lookUpFrom dictionary length asked verdicts words =
        hunter.lookUpFrom dictionary length asked verdicts words := by
    induction words generalizing asked verdicts with
    | nil => rfl
    | cons word words ih =>
        simp only [lookUpFrom, ih]
        rfl
  simp only [lookUp, hfrom]
  rfl

variable (hunter : Hunter) {key other : String} (hkey : allBlank key = false)
  (hother : allBlank other = false)

def SameButKey {α : Type} (key other : String) (first second : α × Hunter) : Prop :=
  first.1 = second.1 ∧ ∃ left : Hunter, first.2 = left.withKey key ∧ second.2 = left.withKey other

theorem alike_finish (gathered : Gathered) :
    Alike (SameButKey key other) ((hunter.withKey key).finish gathered)
      ((hunter.withKey other).finish gathered) := by
  cases gathered with
  | ended ends => exact .done ⟨rfl, hunter, rfl, rfl⟩
  | kept clues seed harvest =>
      simp only [finish, conclude, lookUp_withKey]
      apply (Alike.refl _).seq
      rintro lookedUp _ rfl
      exact .done ⟨rfl, { hunter with verdicts := lookedUp.verdicts }, rfl, rfl⟩

include hkey hother

theorem alike_understand (task : Task) :
    Alike Eq ((hunter.withKey key).understand task) ((hunter.withKey other).understand task) := by
  cases task with
  | byClues clues => exact .refl _
  | byLines text => exact .refl _
  | byWords text =>
      rw [understand, understand, withKey, withKey]
      cases hunter.scribe with
      | none => exact .refl _
      | some scribe =>
          apply (scribe.alike_write hkey hother text).seq
          rintro written _ rfl
          exact .refl _

theorem alike_pursue (task : Task) :
    Alike (SameButKey key other) ((hunter.withKey key).pursue task)
      ((hunter.withKey other).pursue task) := by
  have hgather : Alike Eq ((hunter.withKey key).gather task)
      ((hunter.withKey other).gather task) := by
    apply (hunter.alike_understand hkey hother task).seq
    rintro understood _ rfl
    exact .refl _
  rw [pursue_eq, pursue_eq]
  apply hgather.seq
  rintro gathered _ rfl
  exact hunter.alike_finish gathered

theorem alike_pursueAll (tasks : List Task) :
    Alike (SameButKey key other) ((hunter.withKey key).pursueAll tasks)
      ((hunter.withKey other).pursueAll tasks) := by
  induction tasks generalizing hunter with
  | nil => exact .done ⟨rfl, hunter, rfl, rfl⟩
  | cons task tasks ih =>
      apply (hunter.alike_pursue hkey hother task).seq
      rintro ⟨ends, _⟩ ⟨_, _⟩ ⟨rfl, left, rfl, rfl⟩
      apply (ih left).seq
      rintro ⟨rest, _⟩ ⟨_, _⟩ ⟨rfl, last, rfl, rfl⟩
      exact .done ⟨rfl, last, rfl, rfl⟩

end Hunter

/-! ## Settings -/

namespace Settings

variable (settings : Settings)

def withKey (settings : Settings) (key : String) : Settings :=
  { settings with scribe := { settings.scribe with apiKey := some key } }

/-- What comes of tasks for a new hunter of the settings. -/
def pursueAll (validate : Bool) (tasks : List Task) :
    Dialogue (List (Except Failure Report) × Hunter) :=
  (settings.toHunter validate).pursueAll tasks

/--
Settings that differ in their keys, none of which is blank, lead to the same reports and failures,
the same verdicts, the same state of the partner, and the same events but for the authorization of
requests, if the partner does not look at the authorization.  Neither the scribe nor the hunter,
at the beginning and in the end, gives its key away in its description.
-/
theorem pursueAll_keeps_key (validate : Bool) {key other : String} (hkey : allBlank key = false)
    (hother : allBlank other = false) (tasks : List Task) {partner : Partner σ}
    (hblind : partner.IsBlind) (state : σ) :
    (((settings.withKey key).pursueAll validate tasks).hold partner state).value.1 =
        (((settings.withKey other).pursueAll validate tasks).hold partner state).value.1 ∧
      (((settings.withKey key).pursueAll validate tasks).hold partner state).value.2.verdicts =
        (((settings.withKey other).pursueAll validate tasks).hold partner
          state).value.2.verdicts ∧
      (((settings.withKey key).pursueAll validate tasks).hold partner state).events.map
          Event.veiled =
        (((settings.withKey other).pursueAll validate tasks).hold partner state).events.map
          Event.veiled ∧
      (((settings.withKey key).pursueAll validate tasks).hold partner state).state =
        (((settings.withKey other).pursueAll validate tasks).hold partner state).state ∧
      (settings.withKey key).toScribe.description =
        (settings.withKey other).toScribe.description ∧
      ((settings.withKey key).toHunter validate).description =
        ((settings.withKey other).toHunter validate).description ∧
      (((settings.withKey key).pursueAll validate tasks).hold partner
          state).value.2.description =
        (((settings.withKey other).pursueAll validate tasks).hold partner
          state).value.2.description := by
  have halike : Alike (Hunter.SameButKey key other)
      ((settings.withKey key).pursueAll validate tasks)
      ((settings.withKey other).pursueAll validate tasks) :=
    (settings.toHunter validate).alike_pursueAll hkey hother tasks
  obtain ⟨⟨hends, left, hleft, hleft'⟩, hevents, hstate⟩ := halike.hold hblind state
  refine ⟨hends, ?_, hevents, hstate, rfl, rfl, ?_⟩
  · rw [hleft, hleft']
    rfl
  · rw [hleft, hleft', Hunter.description_withKey, Hunter.description_withKey]

theorem pursueAll_keeps_key_sample :
    let otherwise := fun request : Request =>
      ({ outcome := .unreachable ("unscripted request to " ++ request.url) } : Reply)
    let partner := Partner.script otherwise
    let replies : List Reply := [{ outcome := .response ⟨401, "\x7b\"error\":\"bad key\"\x7d"⟩ }]
    let settings : Settings := {}
    let first := ((settings.withKey "first key").pursueAll true [.byWords "c first"]).hold partner
      replies
    let second := ((settings.withKey "second").pursueAll true [.byWords "c first"]).hold partner
      replies
    first.events ≠ second.events ∧ first.value.1 = second.value.1 ∧
      first.events.map Event.veiled = second.events.map Event.veiled := by
  intro otherwise partner replies settings first second
  have hblind : partner.IsBlind := Partner.isBlind_script fun request other hveiled => by
    simp only [otherwise, Request.url_eq_of_veiled hveiled]
  have hkey : allBlank "first key" = false := by decide +kernel
  have hother : allBlank "second" = false := by decide +kernel
  obtain ⟨hends, -, hevents, -⟩ :=
    settings.pursueAll_keeps_key true hkey hother [.byWords "c first"] hblind replies
  exact ⟨by decide +kernel, hends, hevents⟩

end Settings

end WordHunt
