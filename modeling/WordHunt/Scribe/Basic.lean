import WordHunt.Exchange.Retry
import WordHunt.Scribe.Completion
import WordHunt.Scribe.Prompt
import WordHunt.Text.Blank

/-!
A scribe puts a player's own words into clue lines, with the help of a language model behind a
chat-completions service.
-/

namespace WordHunt

open Text

structure Scribe where
  policy : RetryPolicy
  endpoint : String
  model : String
  apiKey : String
  deriving DecidableEq, Repr

namespace Scribe

def defaultEndpoint : String :=
  "https://api.openai.com/v1/chat/completions"

def defaultModel : String :=
  "gpt-4o-mini"

def request (scribe : Scribe) (text : String) : Request :=
  (Request.postJson scribe.endpoint (prompt scribe.model text)).withHeader
    "authorization" ("Bearer " ++ scribe.apiKey)

def write (scribe : Scribe) (text : String) : Dialogue (Except Failure String) :=
  if allBlank scribe.apiKey then .done (.error (.configuration .keyBlank))
  else if allBlank text then .done (.error (.configuration .constraintTextBlank))
  else do
    match ← scribe.policy.fetch (scribe.request text) with
    | .error failure => return .error failure
    | .ok response => return readCompletion response.body

end Scribe

end WordHunt
