import WordHunt.Proofs.Exchange.Sending
import WordHunt.Proofs.Hunt.Composition
import WordHunt.Proofs.Json.RoundTrip

/-!
# What a scribe is asked

Whatever a player writes, the request to the service has the same four members, and the player's
words are the content of one message in it.  They are read back as they were written, so no
quotation mark, brace or control character among them can end the message or add another.
-/

namespace WordHunt

open Text Dialogue Json

variable {σ : Type}

namespace Scribe

/-! ## The prompt as a value -/

theorem message_eq (role content : String) :
    message role content = .object [("content", .string content), ("role", .string role)] := by
  simp only [message, ofMembers, List.foldl_cons, List.foldl_nil, putMember, String.reduceLT,
    reduceIte]

theorem prompt_eq (model text : String) :
    prompt model text = .object
      [("messages", .array [message "system" instruction, message "user" text]),
       ("model", .string model),
       ("response_format", .object [("type", .string "json_object")]),
       ("temperature", .number (.integer 0))] := by
  simp only [prompt, ofMembers, List.foldl_cons, List.foldl_nil, putMember, String.reduceLT,
    String.reduceEq, reduceIte]

theorem inOrder_message (role content : String) :
    (message role content).inOrder = message role content := by
  rw [message_eq]
  simp only [inOrder, membersInOrder, ofMembers, List.foldl_cons, List.foldl_nil, putMember,
    String.reduceLT, String.reduceEq, reduceIte]

theorem inOrder_prompt (model text : String) :
    (prompt model text).inOrder = prompt model text := by
  rw [prompt_eq]
  simp only [inOrder, membersInOrder, itemsInOrder, inOrder_message, ofMembers, List.foldl_cons,
    List.foldl_nil, putMember, String.reduceLT, String.reduceEq, reduceIte]

theorem isExact_message {room : Nat} (role content : String) :
    IsExact (room + 1) (message role content) := by
  rw [message_eq]
  exact .texts (by simp)

theorem isExact_prompt (model text : String) : IsExact maxDepth (prompt model text) := by
  rw [prompt_eq]
  refine .object fun member hmember => ?_
  simp only [List.mem_cons, List.not_mem_nil, or_false] at hmember
  rcases hmember with rfl | rfl | rfl | rfl
  · refine .array fun item hitem => ?_
    simp only [List.mem_cons, List.not_mem_nil, or_false] at hitem
    rcases hitem with rfl | rfl <;> exact isExact_message _ _
  · exact .string _ _
  · exact .member (.string _ _) _
  · exact .integer _ ⟨by decide, by decide⟩

/-! ## The prompt as it is sent -/

theorem sends_write (scribe : Scribe) (text : String) :
    (scribe.write text).Sends (· = scribe.request text) :=
  scribe.write_of_fetch compositional_sends text (scribe.policy.sends_fetch rfl)

theorem request_mem_events_write {scribe : Scribe} (hkey : allBlank scribe.apiKey = false)
    {text : String} (htext : allBlank text = false) (partner : Partner σ) (state : σ) :
    .request (scribe.request text) 1 ∈ ((scribe.write text).hold partner state).events := by
  obtain ⟨rest, hfetch⟩ := scribe.policy.exists_events_fetch (scribe.request text) partner state
  simp only [write, hkey, htext, Bool.false_eq_true, if_false, hold_seq, hfetch]
  simp

/--
A scribe with a key sends out a player's own words, unless they are blank.  Every request that it
sends holds them as they are, as the second of two messages, and says nothing else that depends on
them.
-/
theorem write_sends_words_as_they_are {scribe : Scribe} (hkey : allBlank scribe.apiKey = false)
    {text : String} (htext : allBlank text = false) (partner : Partner σ) (state : σ) :
    (∃ request number,
        .request request number ∈ ((scribe.write text).hold partner state).events) ∧
      ∀ request number, .request request number ∈ ((scribe.write text).hold partner state).events →
        request.method = .post ∧ ∃ body, request.body = some body ∧
          Json.ofText? body = some (.object
            [("messages", .array
              [.object [("content", .string instruction), ("role", .string "system")],
               .object [("content", .string text), ("role", .string "user")]]),
             ("model", .string scribe.model),
             ("response_format", .object [("type", .string "json_object")]),
             ("temperature", .number (.integer 0))]) := by
  constructor
  · exact ⟨_, 1, request_mem_events_write hkey htext partner state⟩
  · intro request number hmem
    obtain rfl : request = scribe.request text := (scribe.sends_write text).of_mem_events hmem
    refine ⟨rfl, (prompt scribe.model text).toText, rfl, ?_⟩
    rw [ofText?_toText (isExact_prompt _ _), inOrder_prompt, prompt_eq, message_eq, message_eq]

/-- Words that would end the message and add a member, if they were not escaped. -/
theorem write_sends_words_as_they_are_sample :
    let scribe : Scribe := ⟨.scribe, "https://llm.test/v1", "\\\"m", "k"⟩
    let text := "\"\x7d],\"model\":\"\\u0000\x01\té"
    let partner := Partner.script fun _ => ⟨.timedOut, false, .zero⟩
    let events := ((scribe.write text).hold partner []).events
    allBlank scribe.apiKey = false ∧ allBlank text = false ∧
      ∃ request number, .request request number ∈ events ∧
        ∃ body, request.body = some body ∧
          Json.ofText? body = some (.object
            [("messages", .array
              [.object [("content", .string instruction), ("role", .string "system")],
               .object [("content", .string text), ("role", .string "user")]]),
             ("model", .string "\\\"m"),
             ("response_format", .object [("type", .string "json_object")]),
             ("temperature", .number (.integer 0))]) := by
  intro scribe text partner events
  have hkey : allBlank scribe.apiKey = false := by decide +kernel
  have htext : allBlank text = false := by decide +kernel
  obtain ⟨⟨request, number, hmem⟩, hall⟩ := write_sends_words_as_they_are hkey htext
    partner []
  exact ⟨hkey, htext, request, number, hmem, (hall request number hmem).2⟩

end Scribe

end WordHunt
