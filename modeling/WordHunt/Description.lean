import WordHunt.Hunt.Basic
import WordHunt.Text.Line
import WordHunt.Text.Quoted

/-!
Descriptions of the parts of a hunter, for logs and for debugging: each part with the names and
values of its fields.  A scribe's key is never shown.
-/

namespace WordHunt

open Text

def describe (name : String) (fields : List (String × String)) : String :=
  name ++ " \x7b " ++
    joinWith ", " (fields.map fun (field, value) => field ++ ": " ++ value) ++ " \x7d"

def describeOption {α : Type} (describe : α → String) : Option α → String
  | some value => "Some(" ++ describe value ++ ")"
  | none => "None"

def RetryPolicy.description (policy : RetryPolicy) : String :=
  describe "RetryPolicy"
    [("max_attempts", numeralText policy.maxAttempts),
     ("initial_backoff", policy.initialBackoff.toText),
     ("attempt_timeout", policy.attemptBudget.toText)]

def RetryPolicy.fetcherDescription (policy : RetryPolicy) : String :=
  describe "ResilientFetcher"
    [("transport", quoted "<dyn Transport>"), ("policy", policy.description)]

def Scribe.description (scribe : Scribe) : String :=
  describe "Translator"
    [("endpoint", quoted scribe.endpoint), ("model", quoted scribe.model),
     ("api_key", quoted "<redacted>")]

def Catalogue.description (catalogue : Catalogue) : String :=
  describe "WordSource"
    [("url_template", quoted catalogue.urlTemplate),
     ("page_suffix", quoted catalogue.pageSuffix)]

def Harvester.description (harvester : Harvester) : String :=
  describe "PaginatedCollector"
    [("fetcher", harvester.policy.fetcherDescription),
     ("source", harvester.catalogue.description), ("page_delay", harvester.pageDelay.toText)]

def Dictionary.description (dictionary : Dictionary) : String :=
  describe "ExternalValidator"
    [("lookup_url", quoted dictionary.lookupUrl), ("timeout", dictionary.budget.toText)]

def Hunter.description (hunter : Hunter) : String :=
  describe "Sieve"
    [("translator", describeOption Scribe.description hunter.scribe),
     ("collector", hunter.harvester.description),
     ("validator", describeOption Dictionary.description hunter.dictionary),
     ("validation_delay", hunter.lookupDelay.toText),
     ("cached_verdicts", numeralText hunter.verdicts.size)]

end WordHunt
