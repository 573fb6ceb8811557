import WordHunt.Failure
import WordHunt.Json.Reader

/-!
What a scribe answers: a completion whose message holds, as a text, one more JSON object with
the clue lines in its member `rules`.  Of that inner object only the structure is read and the
member asked for; an array of just the lines is taken in its place.
-/

namespace WordHunt.Scribe

open Text Json

def rulesOf? : List (List StringUnit × Tree) → Option (List String)
  | [] => some []
  | (name, tree) :: members => do
      let name ← stringText? name
      let rest ← rulesOf? members
      if name = "rules" then
        match tree with
        | .string units =>
            let text ← stringText? units
            some (text :: rest)
        | _ => none
      else some rest

/-- The clue lines in the structure of a payload, given exactly once. -/
def payloadRules? : Tree → Option String
  | .object members =>
      match rulesOf? members with
      | some [rules] => some rules
      | _ => none
  | .array [.string units] => stringText? units
  | _ => none

def readPayload (content : String) : Except Failure String :=
  match (Tree.ofText? (trim content.toList)).bind payloadRules? with
  | some rules => .ok rules
  | none => .error (.illegible .notRules)

def readCompletion (body : String) : Except Failure String :=
  match Json.ofText? body with
  | none => .error (.illegible .notJson)
  | some json =>
      match (json.follow? ["choices", "0", "message", "content"]).bind Json.text? with
      | none => .error (.illegible .noContent)
      | some content => readPayload content

end WordHunt.Scribe
