import Mathlib.Data.List.Permutation
import WordHunt.Proofs.Json.RoundTrip
import WordHunt.Proofs.Text.Blank
import WordHunt.Scribe.Completion

/-!
# What a scribe answers

The clue lines of a completion are found whatever else its payload holds, in whatever order, and
whatever blanks are around it.  They come back as they were written, although each character of
them is escaped twice: once in the payload and once in the completion that holds it as a text.
-/

namespace WordHunt.Scribe

open Text Json

/-! ## Payloads -/

theorem rulesOf?_memberTrees_append {members : List (String × Json)}
    (h : ∀ member ∈ members, member.1 ≠ "rules") (trees : List (List StringUnit × Tree)) :
    rulesOf? (memberTrees members ++ trees) = rulesOf? trees := by
  induction members with
  | nil => rfl
  | cons member members ih =>
      obtain ⟨hname, hmembers⟩ := List.forall_mem_cons.mp h
      obtain ⟨name, value⟩ := member
      rw [memberTrees, List.cons_append, rulesOf?, stringText?_writtenUnits, ih hmembers]
      cases rulesOf? trees with
      | none => rfl
      | some rules => simp [hname]

def payload (before : List (String × Json)) (rules : String) (after : List (String × Json)) : Json :=
  .object (before ++ ("rules", .string rules) :: after)

section Payload

variable {before after : List (String × Json)}
  (hnames : ∀ member ∈ before ++ after, member.1 ≠ "rules") (rules : String)
include hnames

theorem payloadRules?_payload :
    payloadRules? (payload before rules after).tree = some rules := by
  obtain ⟨hbefore, hafter⟩ := List.forall_mem_append.mp hnames
  have hnone := rulesOf?_memberTrees_append hafter []
  rw [List.append_nil] at hnone
  have hrules : rulesOf? (memberTrees (before ++ ("rules", .string rules) :: after)) =
      some [rules] := by
    rw [memberTrees_eq_map, List.map_append, ← memberTrees_eq_map,
      rulesOf?_memberTrees_append hbefore, List.map_cons, ← memberTrees_eq_map, tree, rulesOf?,
      stringText?_writtenUnits, hnone]
    simp [rulesOf?]
  rw [payload, tree, payloadRules?, hrules]

omit hnames in
theorem isTrimmed_payload : IsTrimmed (payload before rules after).toText.toList := by
  obtain ⟨inside, hinside⟩ := exists_chars_object (before ++ ("rules", .string rules) :: after)
  rw [toText, String.toList_ofList, payload, hinside]
  constructor
  · rintro _ ⟨⟩
    decide
  · rw [List.getLast?_concat]
    rintro _ ⟨⟩
    decide

theorem readPayload_payload {left right : String} (hleft : allBlank left = true)
    (hright : allBlank right = true) :
    readPayload (left ++ (payload before rules after).toText ++ right) = .ok rules := by
  have hchars : trim (left ++ (payload before rules after).toText ++ right).toList =
      chars (payload before rules after) [] := by
    rw [String.toList_append, String.toList_append, trim_append_right (List.all_eq_true.mp hright),
      trim_append_left (List.all_eq_true.mp hleft), (isTrimmed_payload rules).trim_eq,
      toText, String.toList_ofList]
  rw [readPayload, hchars, ofText?_chars, Option.bind_some, payloadRules?_payload hnames]

end Payload

/-! ## Completions -/

/-- A completion with one choice, of which the message is known. -/
def completion (message : List (String × Json)) : Json :=
  .object [("choices", .array [.object [("message", .object message)]])]

section Completion

variable {role content : String} {message : List (String × Json)}
  (hmessage : message.Perm [("role", .string role), ("content", .string content)])
include hmessage

theorem eq_or_eq_of_perm :
    message = [("role", .string role), ("content", .string content)] ∨
      message = [("content", .string content), ("role", .string role)] := by
  simpa [List.permutations, List.permutationsAux, List.permutationsAux.rec] using
    List.mem_permutations.mpr hmessage

theorem isExact_completion : IsExact maxDepth (completion message) := by
  refine .member (.item (.member (.texts fun member hmember => ?_) _)) _
  have hmem := hmessage.mem_iff.mp hmember
  simp only [List.mem_cons, List.not_mem_nil, or_false] at hmem
  rcases hmem with rfl | rfl
  · exact ⟨role, rfl⟩
  · exact ⟨content, rfl⟩

theorem inOrder_completion :
    (completion message).inOrder =
      completion [("content", .string content), ("role", .string role)] := by
  rcases eq_or_eq_of_perm hmessage with rfl | rfl <;>
    simp only [completion, inOrder, membersInOrder, itemsInOrder, ofMembers, List.foldl_cons,
      List.foldl_nil, putMember, String.reduceLT, String.reduceEq, reduceIte]

theorem readCompletion_completion :
    readCompletion (completion message).toText = readPayload content := by
  have hcontent : ((completion [("content", .string content), ("role", .string role)]).follow?
      ["choices", "0", "message", "content"]).bind Json.text? = some content := rfl
  rw [readCompletion, ofText?_toText (isExact_completion hmessage), inOrder_completion hmessage]
  simp only [hcontent]

end Completion

/--
A payload of clue lines, with any other members around them and any blanks around all of it, is
decoded to these lines, both alone and as the content of a completion.
-/
theorem readCompletion_of_payload {before after : List (String × Json)}
    (hnames : ∀ member ∈ before ++ after, member.1 ≠ "rules") {left right : String}
    (hleft : allBlank left = true) (hright : allBlank right = true) (rules : String)
    {content : String} (hcontent : content = left ++ (payload before rules after).toText ++ right)
    {role : String} {message : List (String × Json)}
    (hmessage : message.Perm [("role", .string role), ("content", .string content)]) :
    readPayload content = .ok rules ∧ readCompletion (completion message).toText = .ok rules := by
  have hpayload := readPayload_payload hnames rules hleft hright
  rw [← hcontent] at hpayload
  exact ⟨hpayload, (readCompletion_completion hmessage).trans hpayload⟩

theorem readCompletion_of_payload_sample :
    let before : List (String × Json) :=
      [("note", .array [.number (.real 1.5), .null, .object [("rules", .boolean true)]])]
    let after : List (String × Json) := [("", .number (.integer (-3))), ("note", .string "\"")]
    let content := "\n " ++ (payload before "A AT 1\n\"\\\x01" after).toText ++ "\u00a0"
    let message : List (String × Json) :=
      [("content", .string content), ("role", .string "assistant")]
    (∀ member ∈ before ++ after, member.1 ≠ "rules") ∧ allBlank "\n " = true ∧
      allBlank "\u00a0" = true ∧
      message.Perm [("role", .string "assistant"), ("content", .string content)] ∧
      readPayload content = .ok "A AT 1\n\"\\\x01" ∧
      readCompletion (completion message).toText = .ok "A AT 1\n\"\\\x01" := by
  intro before after content message
  have hnames : ∀ member ∈ before ++ after, member.1 ≠ "rules" := by simp [before, after]
  have hleft : allBlank "\n " = true := by decide +kernel
  have hright : allBlank "\u00a0" = true := by decide +kernel
  have hmessage : message.Perm [("role", .string "assistant"), ("content", .string content)] :=
    .swap _ _ []
  exact ⟨hnames, hleft, hright, hmessage,
    readCompletion_of_payload hnames hleft hright _ rfl hmessage⟩

end WordHunt.Scribe
