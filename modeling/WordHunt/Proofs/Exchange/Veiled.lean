import WordHunt.Proofs.Exchange.Series

/-!
# Requests with their authorization veiled

Two dialogues are alike if they go step by step through the same requests, pauses and warnings, but
for what the requests give as authorization.  A partner that does not look at the authorization
cannot tell them apart.
-/

namespace WordHunt

variable {σ α β γ δ : Type}

/-- The request without the value of its header `authorization`. -/
def Request.veiled (request : Request) : Request :=
  { request with
    headers := request.headers.map fun (name, value) =>
      (name, if name = "authorization" then "" else value) }

def Event.veiled : Event → Event
  | .request message number => .request message.veiled number
  | .pause span => .pause span
  | .warn text => .warn text

/-- The partner answers requests alike that differ in nothing but their authorization. -/
def Partner.IsBlind (partner : Partner σ) : Prop :=
  ∀ state attempt request other, Request.veiled request = Request.veiled other →
    partner.answer state request attempt = partner.answer state other attempt

theorem Partner.isBlind_script {otherwise : Request → Reply}
    (h : ∀ request other, Request.veiled request = Request.veiled other →
      otherwise request = otherwise other) :
    (Partner.script otherwise).IsBlind := by
  intro replies attempt request other hveiled
  cases replies with
  | nil => simp only [script, h request other hveiled]
  | cons reply replies => rfl

theorem Request.url_eq_of_veiled {request other : Request} (h : request.veiled = other.veiled) :
    request.url = other.url := by
  have hurl : request.veiled.url = other.veiled.url := by rw [h]
  exact hurl

namespace Dialogue

/-- Dialogues of the same course but for veiled authorizations, which end with related values. -/
inductive Alike (related : α → β → Prop) : Dialogue α → Dialogue β → Prop where
  | done {value : α} {other : β} (h : related value other) :
      Alike related (.done value) (.done other)
  | ask {request other : Request} {attempt : Attempt} {next : Reply → Dialogue α}
      {next' : Reply → Dialogue β} (veiled : request.veiled = other.veiled)
      (alike : ∀ reply, Alike related (next reply) (next' reply)) :
      Alike related (.ask request attempt next) (.ask other attempt next')
  | pause {span : Duration} {next : Dialogue α} {next' : Dialogue β}
      (alike : Alike related next next') : Alike related (.pause span next) (.pause span next')
  | warn {text : String} {next : Dialogue α} {next' : Dialogue β}
      (alike : Alike related next next') : Alike related (.warn text next) (.warn text next')

namespace Alike

theorem refl (dialogue : Dialogue α) : Alike Eq dialogue dialogue := by
  induction dialogue with
  | done value => exact .done rfl
  | ask request attempt next ih => exact .ask rfl ih
  | pause span next ih => exact .pause ih
  | warn text next ih => exact .warn ih

theorem seq {related : α → β → Prop} {result : γ → δ → Prop} {first : Dialogue α}
    {second : Dialogue β} {f : α → Dialogue γ} {g : β → Dialogue δ}
    (h : Alike related first second)
    (hf : ∀ value other, related value other → Alike result (f value) (g other)) :
    Alike result (first >>= f) (second >>= g) := by
  change Alike result (first.bind f) (second.bind g)
  induction h with
  | done h => exact hf _ _ h
  | ask veiled _ ih => exact .ask veiled ih
  | pause _ ih => exact .pause ih
  | warn _ ih => exact .warn ih

theorem hold {related : α → β → Prop} {first : Dialogue α} {second : Dialogue β}
    (h : Alike related first second) {partner : Partner σ} (hblind : partner.IsBlind) (state : σ) :
    related (first.hold partner state).value (second.hold partner state).value ∧
      (first.hold partner state).events.map Event.veiled =
        (second.hold partner state).events.map Event.veiled ∧
      (first.hold partner state).state = (second.hold partner state).state := by
  induction h generalizing state with
  | done h => exact ⟨h, rfl, rfl⟩
  | @ask request other attempt next next' veiled _ ih =>
      have hanswer := hblind state attempt request other veiled
      obtain ⟨hvalue, hevents, hstate⟩ := ih (partner.answer state other attempt).1
        (partner.answer state other attempt).2
      simp only [Dialogue.hold, hanswer, List.map_cons, Event.veiled, veiled, hevents]
      exact ⟨hvalue, trivial, hstate⟩
  | pause _ ih =>
      obtain ⟨hvalue, hevents, hstate⟩ := ih state
      simp only [Dialogue.hold, List.map_cons, hevents]
      exact ⟨hvalue, trivial, hstate⟩
  | warn _ ih =>
      obtain ⟨hvalue, hevents, hstate⟩ := ih state
      simp only [Dialogue.hold, List.map_cons, hevents]
      exact ⟨hvalue, trivial, hstate⟩

end Alike

end Dialogue

end WordHunt
