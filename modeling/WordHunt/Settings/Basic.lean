import WordHunt.Catalogue.Harvest
import WordHunt.Dictionary.Lookup
import WordHunt.Hunt.Basic
import WordHunt.Scribe.Basic
import WordHunt.Settings.Conversion

/-!
The settings of a hunt, in three sections: the scribe, the catalogue and the dictionary.  What
is not set has a default.
-/

namespace WordHunt

open Text

/-- Numbers of attempts stay below this bound, that of a 32-bit word. -/
def attemptsBound : Nat := 0x100000000

structure RetryChanges where
  maxAttempts : Option Nat := none
  initialBackoff : Option Duration := none
  attemptBudget : Option Duration := none
  deriving DecidableEq, Repr

def RetryChanges.resolve (changes : RetryChanges) (policy : RetryPolicy) : RetryPolicy where
  maxAttempts := changes.maxAttempts.getD policy.maxAttempts
  initialBackoff := changes.initialBackoff.getD policy.initialBackoff
  attemptBudget := changes.attemptBudget.getD policy.attemptBudget

structure ScribeSettings where
  endpoint : String := Scribe.defaultEndpoint
  model : String := Scribe.defaultModel
  apiKey : Option String := none
  retry : RetryChanges := {}
  deriving DecidableEq, Repr

def ScribeSettings.policy (settings : ScribeSettings) : RetryPolicy :=
  settings.retry.resolve .scribe

structure CatalogueSettings where
  urlTemplate : String := Catalogue.defaultTemplate
  pageSuffix : String := Catalogue.defaultSuffix
  pageDelay : Duration := Harvester.defaultPageDelay
  retry : RetryChanges := {}
  deriving DecidableEq, Repr

def CatalogueSettings.policy (settings : CatalogueSettings) : RetryPolicy :=
  settings.retry.resolve .catalogue

structure DictionarySettings where
  lookupUrl : String := Dictionary.defaultLookupUrl
  budget : Duration := Dictionary.defaultBudget
  delay : Duration := Hunter.defaultLookupDelay
  deriving DecidableEq, Repr

structure Settings where
  scribe : ScribeSettings := {}
  catalogue : CatalogueSettings := {}
  dictionary : DictionarySettings := {}
  deriving DecidableEq, Repr

def Settings.places : List String :=
  ["translator.endpoint", "translator.model", "translator.api_key",
   "translator.retry.max_attempts", "translator.retry.initial_backoff_ms",
   "translator.retry.timeout_secs", "word_source.url_template", "word_source.page_suffix",
   "word_source.page_delay_ms", "word_source.retry.max_attempts",
   "word_source.retry.initial_backoff_ms", "word_source.retry.timeout_secs",
   "dictionary.lookup_url", "dictionary.timeout_secs", "dictionary.delay_ms"]

/-- The scribe's key without the blanks around it, which must not be all of it. -/
def Settings.apiKey (settings : Settings) : Except Failure String :=
  match settings.scribe.apiKey.map (trim ·.toList) with
  | some (c :: key) => .ok (String.ofList (c :: key))
  | _ => .error (.configuration .keyMissing)

namespace Setting

def toMillis? (value : Setting) : Option Duration :=
  value.toWord?.map .ofMillis

def toSecs? (value : Setting) : Option Duration :=
  value.toWord?.map .ofSecs

def toRetryChanges? (value : Setting) : Option RetryChanges := do
  let values ← value.entries? ["max_attempts", "initial_backoff_ms", "timeout_secs"]
  let maxAttempts ← get? values "max_attempts" (optional? (toCount? attemptsBound)) none
  let initialBackoff ← get? values "initial_backoff_ms" (optional? toMillis?) none
  let attemptBudget ← get? values "timeout_secs" (optional? toSecs?) none
  some { maxAttempts, initialBackoff, attemptBudget }

def toScribeSettings? (value : Setting) : Option ScribeSettings := do
  let default : ScribeSettings := {}
  let values ← value.entries? ["endpoint", "model", "api_key", "retry"]
  let endpoint ← get? values "endpoint" toText? default.endpoint
  let model ← get? values "model" toText? default.model
  let apiKey ← get? values "api_key" (optional? toText?) default.apiKey
  let retry ← get? values "retry" toRetryChanges? default.retry
  some { endpoint, model, apiKey, retry }

def toCatalogueSettings? (value : Setting) : Option CatalogueSettings := do
  let default : CatalogueSettings := {}
  let values ← value.entries? ["url_template", "page_suffix", "page_delay_ms", "retry"]
  let urlTemplate ← get? values "url_template" toText? default.urlTemplate
  let pageSuffix ← get? values "page_suffix" toText? default.pageSuffix
  let pageDelay ← get? values "page_delay_ms" toMillis? default.pageDelay
  let retry ← get? values "retry" toRetryChanges? default.retry
  some { urlTemplate, pageSuffix, pageDelay, retry }

def toDictionarySettings? (value : Setting) : Option DictionarySettings := do
  let default : DictionarySettings := {}
  let values ← value.entries? ["lookup_url", "timeout_secs", "delay_ms"]
  let lookupUrl ← get? values "lookup_url" toText? default.lookupUrl
  let budget ← get? values "timeout_secs" toSecs? default.budget
  let delay ← get? values "delay_ms" toMillis? default.delay
  some { lookupUrl, budget, delay }

/-- The settings that a tree gives; names that are not known are passed over. -/
def toSettings? (value : Setting) : Option Settings := do
  let default : Settings := {}
  let values ← value.entries? ["translator", "word_source", "dictionary"]
  let scribe ← get? values "translator" toScribeSettings? default.scribe
  let catalogue ← get? values "word_source" toCatalogueSettings? default.catalogue
  let dictionary ← get? values "dictionary" toDictionarySettings? default.dictionary
  some { scribe, catalogue, dictionary }

end Setting

end WordHunt
