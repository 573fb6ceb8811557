import WordHunt.Proofs.Hunt.Phases
import WordHunt.Proofs.Scribe.Prompt
import WordHunt.Proofs.Text.Blank

/-!
# What is posted in a hunt

All that a hunter ever posts is the request to its scribe, with the player's own words in it.  It
names the key as authorization just as the settings give it.  The settings also hand out the key
without the blanks around it, and the two agree only if there are none.
-/

namespace WordHunt

open Text Dialogue

variable {σ : Type}

/-! ## What is sent -/

theorem Dictionary.sends_lookup {p : Request → Prop} (dictionary : Dictionary) {word : String}
    (h : p (dictionary.lookupRequest word)) : (dictionary.lookup word).Sends p := by
  rw [lookup]
  refine ⟨h, fun reply => ?_⟩
  dsimp only
  split <;> trivial

theorem Hunter.sends_hunt {p : Request → Prop} (hunter : Hunter) (hget : ∀ url, p (.get url))
    {text : String}
    (hscribe : ∀ scribe, hunter.scribe = some scribe → p (scribe.request text)) :
    (hunter.hunt text).Sends p := by
  refine hunter.pursue_of_fetch compositional_sends ?_ (.byWords text) ?_ ?_
  · intro seed length page
    exact hunter.harvester.policy.sends_fetch (hget _)
  · rintro scribe _ hsome ⟨⟩
    exact scribe.policy.sends_fetch (hscribe scribe hsome)
  · intro dictionary word _
    exact dictionary.sends_lookup (hget _)

theorem Hunter.request_mem_events_hunt {hunter : Hunter} {scribe : Scribe}
    (hscribe : hunter.scribe = some scribe) (hkey : allBlank scribe.apiKey = false) {text : String}
    (htext : allBlank text = false) (partner : Partner σ) (state : σ) :
    .request (scribe.request text) 1 ∈ ((hunter.hunt text).hold partner state).events := by
  rw [hunt, hscribe]
  simp only [hold_seq]
  exact List.mem_append_left _ (Scribe.request_mem_events_write hkey htext partner state)

/-! ## The key as it is given -/

namespace Settings

variable (settings : Settings)

theorem apiKey_eq_ok_iff {key : String} :
    settings.apiKey = .ok key ↔
      ∃ given, settings.scribe.apiKey = some given ∧ trim given.toList ≠ [] ∧
        String.ofList (trim given.toList) = key := by
  rw [apiKey]
  cases settings.scribe.apiKey with
  | none => simp
  | some given =>
      cases htrim : trim given.toList with
      | nil => simp [htrim]
      | cons c rest => simp [htrim]

/--
The settings give a key that they hand out without the blanks around it.  A hunt by a player's own
words posts a request to the scribe, unless there are no words, and whatever it posts names the key
as it is given, with all blanks.
-/
theorem hunt_posts_key_as_given (validate : Bool) (verdicts : Verdicts) (text : String)
    (partner : Partner σ) (state : σ) {key : String} (hkey : settings.apiKey = .ok key) :
    ∃ given, settings.scribe.apiKey = some given ∧
      (∀ request number,
        .request request number ∈
            (((settings.hunterWith validate verdicts).hunt text).hold partner state).events →
          request.method = .post →
            request = settings.toScribe.request text ∧
              request.headers =
                [("content-type", "application/json"), ("authorization", "Bearer " ++ given)]) ∧
      (allBlank text = false →
        .request (settings.toScribe.request text) 1 ∈
          (((settings.hunterWith validate verdicts).hunt text).hold partner state).events) ∧
      String.ofList (trim given.toList) = key ∧
      (given = key ↔ IsTrimmed given.toList) := by
  obtain ⟨given, hgiven, hne, rfl⟩ := settings.apiKey_eq_ok_iff.mp hkey
  have hscribe : settings.toScribe.apiKey = given := by
    rw [toScribe, hgiven]
    rfl
  refine ⟨given, hgiven, ?_, ?_, rfl, ?_⟩
  · intro request number hmem hpost
    have hsends : ((settings.hunterWith validate verdicts).hunt text).Sends fun request =>
        request.method = .post → request = settings.toScribe.request text := by
      apply Hunter.sends_hunt
      · intro url hget
        cases hget
      · intro scribe hsome _
        rw [← Option.some.inj hsome]
    have hrequest := hsends.of_mem_events hmem hpost
    constructor
    · exact hrequest
    · rw [hrequest, ← hscribe]
      rfl
  · intro htext
    refine Hunter.request_mem_events_hunt rfl ?_ htext partner state
    rw [hscribe]
    exact allBlank_of_trim_ne_nil hne
  · rw [← trim_eq_iff_isTrimmed, ← String.toList_inj, String.toList_ofList, eq_comm]

theorem hunt_posts_key_as_given_sample :
    let settings : Settings := { scribe := { apiKey := some "\tsecret\n" } }
    let hunter := settings.hunterWith false .empty
    let partner := Partner.script fun _ => { outcome := .timedOut }
    settings.apiKey = .ok "secret" ∧
      ∃ given, given ≠ "secret" ∧
        .request (settings.toScribe.request "c first") 1 ∈
          ((hunter.hunt "c first").hold partner []).events ∧
        (settings.toScribe.request "c first").headers =
          [("content-type", "application/json"), ("authorization", "Bearer " ++ given)] := by
  intro settings hunter partner
  have hkey : settings.apiKey = .ok "secret" := by decide +kernel
  obtain ⟨given, hgiven, hposts, hposted, -, htrimmed⟩ :=
    settings.hunt_posts_key_as_given false .empty "c first" partner [] hkey
  have hposted := hposted (by decide +kernel)
  refine ⟨hkey, given, ?_, hposted, (hposts _ 1 hposted rfl).2⟩
  rintro rfl
  exact absurd hgiven (by decide +kernel)

/-- A key with a blank on either side is handed out without them and posted with them. -/
theorem padded_key_posted_with_blanks :
    let settings : Settings := { scribe := { apiKey := some " k " } }
    let partner := Partner.script fun _ => { outcome := .timedOut }
    let replies : List Reply := [{ outcome := .response ⟨400, ""⟩ }]
    settings.apiKey = .ok "k" ∧
      ∃ request, request.method = .post ∧
        .request request 1 ∈
          (((settings.toHunter false).hunt "c first").hold partner replies).events ∧
        ("authorization", "Bearer  k ") ∈ request.headers ∧
        ("authorization", "Bearer k") ∉ request.headers := by
  intro settings partner replies
  have hkey : settings.apiKey = .ok "k" := by decide +kernel
  have hposted : .request (settings.toScribe.request "c first") 1 ∈
      (((settings.toHunter false).hunt "c first").hold partner replies).events :=
    Hunter.request_mem_events_hunt rfl (by decide +kernel) (by decide +kernel) partner replies
  refine ⟨hkey, settings.toScribe.request "c first", rfl, hposted, ?_, ?_⟩
  · decide +kernel
  · decide +kernel

end Settings

end WordHunt
