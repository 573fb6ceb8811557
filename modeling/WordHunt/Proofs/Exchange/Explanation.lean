import WordHunt.Proofs.Exchange.Attempts

/-!
# The explanation of a failure

A service may say in a JSON body why it refuses a request.  There are three places where it can
say so, and the first of them that is filled decides: a string there is the explanation, and
anything else means that there is none, whatever the places after it hold.  A fetch that ends on
such a response passes the explanation on in its failure.
-/

namespace WordHunt

variable {σ : Type}

namespace Json

theorem child?_eq_member? {name : String} (h : index? name = none) (value : Json) :
    value.child? name = value.member? name := by
  cases value <;> simp [child?, member?, h]

theorem follow?_singleton {name : String} (h : index? name = none) (value : Json) :
    value.follow? [name] = value.member? name := by
  simp [follow?, child?_eq_member? h]

theorem text?_eq_some_iff {value : Json} {text : String} :
    value.text? = some text ↔ value = .string text := by
  cases value <;> simp [text?]

/-- Of some places in a value, the first at which there is anything holds `found`. -/
def IsFirstAt (value : Json) (places : List (List String)) (found : Json) : Prop :=
  ∃ before place after, places = before ++ place :: after ∧
    value.follow? place = some found ∧ ∀ earlier ∈ before, value.follow? earlier = none

end Json

namespace Response

def explanationPlaces : List (List String) :=
  [["error", "message"], ["message"], ["error"]]

theorem explanation?_eq_findSome? (response : Response) :
    response.explanation? =
      (Json.ofText? response.body).bind fun json =>
        (explanationPlaces.findSome? json.follow?).bind Json.text? := by
  have hmessage : Json.index? "message" = none := by decide +kernel
  have herror : Json.index? "error" = none := by decide +kernel
  unfold explanation? explanationPlaces
  cases Json.ofText? response.body with
  | none => rfl
  | some json =>
      simp only [List.findSome?_cons, List.findSome?_nil, Json.follow?_singleton hmessage,
        Json.follow?_singleton herror, Option.bind_eq_bind, Option.bind_some]
      cases json.follow? ["error", "message"] <;> cases json.member? "message" <;>
        cases json.member? "error" <;> rfl

theorem explanation?_eq_some_iff {response : Response} {text : String} :
    response.explanation? = some text ↔
      ∃ json, Json.ofText? response.body = some json ∧
        json.IsFirstAt explanationPlaces (.string text) := by
  simp only [explanation?_eq_findSome?, Option.bind_eq_some_iff, Json.text?_eq_some_iff,
    exists_eq_right, List.findSome?_eq_some_iff, Json.IsFirstAt]

/-- An `error` that is a string is lost behind a `message` that is none. -/
theorem explanation?_of_null_message :
    let response : Response := ⟨400, "\x7b\"message\":null,\"error\":\"quota\"\x7d"⟩
    (explanationPlaces.map fun place =>
        ((Json.ofText? response.body).bind (Json.follow? place)).bind Json.text?) =
          [none, none, some "quota"] ∧
      response.explanation? = none := by
  decide +kernel

end Response

namespace RetryPolicy

/--
A response has an explanation if its body is JSON and the first of the three places that is
filled holds a string, which is the explanation then.  A fetch that ends on a response names
this explanation in its failure.
-/
theorem fetchWith_explains_by_first_filled (policy : RetryPolicy)
    (classify : Response → Disposition) (request : Request) (partner : Partner σ) (state : σ) :
    let budget := policy.attemptBudget
    let fetched := (policy.fetchWith classify request).hold partner state
    (∀ response : Response, ∀ text, response.explanation? = some text ↔
      ∃ json, Json.ofText? response.body = some json ∧
        json.IsFirstAt Response.explanationPlaces (.string text)) ∧
    ∃ last, 1 ≤ last ∧ asked fetched.events = (List.range' 1 last).map (request, ·) ∧
      ∀ response, (partner.turn (request.attempt budget) 1 state last).value.Brings budget
          response →
        (classify response = .fatal →
          fetched.value =
            .error (.http request.url response.status response.explanation?)) ∧
        (classify response = .rateLimited →
          fetched.value =
            .error (.rateLimited request.url last response.status response.explanation?)) := by
  intro budget fetched
  obtain ⟨last, course, -⟩ := policy.exists_course_fetchWith classify request partner state
  refine ⟨fun response text => Response.explanation?_eq_some_iff, last, course.first_le,
    course.asked_eq, fun response hbrings => ⟨fun hfatal => ?_, fun hlimited => ?_⟩⟩
  · rw [course.value, Attempt.result_of_brings classify _ hbrings, hfatal]
    rfl
  · rw [course.value, Attempt.result_of_brings classify _ hbrings, hlimited]
    rfl

theorem fetchWith_explains_by_first_filled_sample :
    let partner := Partner.script fun _ => { outcome := .timedOut }
    let policy : RetryPolicy := ⟨3, ⟨1000⟩, ⟨1000⟩⟩
    let request := Request.get "words"
    let response : Response := ⟨400, "\x7b\"error\":\"quota\"\x7d"⟩
    let fetched := (policy.fetchWith Response.disposition request).hold partner
      [{ outcome := .response response }]
    asked fetched.events = [(request, 1)] ∧
      fetched.value = .error (.http "words" 400 (some "quota")) := by
  intro partner policy request response fetched
  have hasked : asked fetched.events = [(request, 1)] := by decide +kernel
  obtain ⟨-, last, -, hlast, hfails⟩ := policy.fetchWith_explains_by_first_filled
    Response.disposition request partner [{ outcome := .response response }]
  obtain rfl : last = 1 := by
    simpa using congrArg List.length (hlast.symm.trans hasked)
  have hbrings : ((partner.turn (request.attempt policy.attemptBudget) 1
      [{ outcome := .response response }] 1).value).Brings policy.attemptBudget response :=
    ⟨⟨rfl, by decide⟩, rfl⟩
  refine ⟨hasked, ((hfails response hbrings).1 rfl).trans ?_⟩
  decide +kernel

end RetryPolicy

end WordHunt
