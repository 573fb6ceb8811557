import WordHunt.Settings.Basic

/-!
The hunter that settings describe.
-/

namespace WordHunt.Settings

/-- The scribe, whose key is empty if none is set. -/
def toScribe (settings : Settings) : Scribe where
  policy := settings.scribe.policy
  endpoint := settings.scribe.endpoint
  model := settings.scribe.model
  apiKey := settings.scribe.apiKey.getD ""

def toHarvester (settings : Settings) : Harvester where
  catalogue := ⟨settings.catalogue.urlTemplate, settings.catalogue.pageSuffix⟩
  policy := settings.catalogue.policy
  pageDelay := settings.catalogue.pageDelay

def toDictionary (settings : Settings) : Dictionary where
  lookupUrl := settings.dictionary.lookupUrl
  budget := settings.dictionary.budget

/-- The hunter, who looks words up only if they are to be validated. -/
def toHunter (settings : Settings) (validate : Bool) : Hunter where
  scribe := some settings.toScribe
  harvester := settings.toHarvester
  dictionary := if validate then some settings.toDictionary else none
  lookupDelay := settings.dictionary.delay

end WordHunt.Settings
