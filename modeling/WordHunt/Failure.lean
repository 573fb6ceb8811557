import WordHunt.Duration

/-!
Everything that can end a hunt without a report, and the words in which it is told.
-/

namespace WordHunt

open Text

inductive Misconfiguration where
  | keyMissing
  | keyBlank
  | constraintTextBlank
  | clueTextBlank
  | noScribe
  | unreadable (path reason : String)
  deriving DecidableEq, Repr

def Misconfiguration.message : Misconfiguration → String
  | .keyMissing =>
      "translation API key missing; set WORDLE_SIEVE__TRANSLATOR__API_KEY or translator.api_key"
  | .keyBlank => "translation API key is not set"
  | .constraintTextBlank => "no constraint text provided"
  | .clueTextBlank => "no clue text provided"
  | .noScribe => "no translation service configured"
  | .unreadable path reason => "failed to read " ++ path ++ ": " ++ reason

inductive Illegible where
  | notJson
  | noContent
  | notRules
  deriving DecidableEq, Repr

def Illegible.message : Illegible → String
  | .notJson => "response is not JSON"
  | .noContent => "response has no message content"
  | .notRules => "message content is not a rules object"

inductive Failure where
  | configuration (cause : Misconfiguration)
  | settings
  | timeout (url : String) (attempts : Nat) (budget : Duration)
  | rateLimited (url : String) (attempts status : Nat) (explanation : Option String)
  | network (url : String) (attempts : Nat) (reason : String)
  | http (url : String) (status : Nat) (explanation : Option String)
  | illegible (cause : Illegible)
  deriving DecidableEq, Repr

namespace Failure

def explanationText : Option String → String
  | none => ""
  | some explanation => ": " ++ explanation

def message : Failure → String
  | .configuration cause => "configuration error: " ++ cause.message
  | .settings => "failed to load settings"
  | .timeout url attempts budget =>
      "request to " ++ url ++ " timed out after " ++ numeralText attempts ++ " attempt(s) (" ++
        budget.toText ++ " per attempt)"
  | .rateLimited url attempts status explanation =>
      "request to " ++ url ++ " rate limited after " ++ numeralText attempts ++
        " attempt(s) (status " ++ numeralText status ++ ")" ++ explanationText explanation
  | .network url attempts reason =>
      "network failure for " ++ url ++ " after " ++ numeralText attempts ++ " attempt(s): " ++
        reason
  | .http url status explanation =>
      "request to " ++ url ++ " failed with status " ++ numeralText status ++
        explanationText explanation
  | .illegible cause => "could not decode translation response: " ++ cause.message

def status? : Failure → Option Nat
  | .rateLimited _ _ status _ => some status
  | .http _ status _ => some status
  | _ => none

def isNotFound (failure : Failure) : Bool :=
  failure.status? = some 404

end Failure

end WordHunt
