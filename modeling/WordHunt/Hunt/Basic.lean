import WordHunt.Catalogue.Harvest
import WordHunt.Clues.Reader
import WordHunt.Dictionary.Lookup
import WordHunt.Hunt.Report
import WordHunt.Scribe.Basic

/-!
The hunt for words.  Clues in a player's own words go to a scribe; clue lines give the clues;
the settled letter with the lowest position is the seed whose pages are harvested; the harvest
is screened by the clues; and the words left may be looked up in a dictionary, whose answers
the hunter remembers from one hunt to the next.
-/

namespace WordHunt

structure Hunter where
  scribe : Option Scribe
  harvester : Harvester
  dictionary : Option Dictionary
  lookupDelay : Duration
  verdicts : Verdicts := .empty
  deriving DecidableEq

namespace Hunter

def defaultLookupDelay : Duration :=
  .ofMillis 250

def insertWord (word : String) : List String → List String
  | [] => [word]
  | other :: words =>
      if word ≤ other then word :: other :: words else other :: insertWord word words

def alphabetical (words : List String) : List String :=
  words.foldr insertWord []

structure LookedUp where
  found : List String := []
  unknown : Nat := 0
  verdicts : Verdicts

def LookedUp.withWord (lookedUp : LookedUp) (word : String) (verdict : Verdict) : LookedUp :=
  if verdict.exist then { lookedUp with found := word :: lookedUp.found }
  else { lookedUp with unknown := lookedUp.unknown + 1 }

/-- Looks up words in turn; `asked` says whether the word before went to the dictionary. -/
def lookUpFrom (hunter : Hunter) (dictionary : Dictionary) (length : Nat) :
    (asked : Bool) → Verdicts → List String → Dialogue LookedUp
  | _, verdicts, [] => .done { verdicts }
  | asked, verdicts, word :: words =>
      let next : Dialogue LookedUp := do
        let (verdict, verdicts) ← dictionary.check verdicts word length
        let rest ← hunter.lookUpFrom dictionary length verdict.isFresh verdicts words
        return rest.withWord word verdict
      if asked then .pause hunter.lookupDelay next else next

/-- The words that exist, as far as the dictionary, if there is one, is asked. -/
def lookUp (hunter : Hunter) (length : Nat) (words : List String) : Dialogue LookedUp :=
  match hunter.dictionary with
  | some dictionary => hunter.lookUpFrom dictionary length false hunter.verdicts words
  | none => .done { found := words, verdicts := hunter.verdicts }

abbrev Hunted := Except Failure Report × Hunter

def conclude (hunter : Hunter) (clues : Clues) (seed : Seed) (harvest : Harvest) :
    Dialogue Hunted := do
  let candidates := harvest.words.toList
  let screening := clues.screen candidates
  let lookedUp ← hunter.lookUp clues.length screening.accepted
  let report : Report :=
    { clues
      seed := some seed
      found := alphabetical lookedUp.found
      collected := candidates.length
      pages := harvest.pages
      rejected := screening.rejected
      tally := screening.tally
      unknown := lookedUp.unknown }
  return (.ok report, { hunter with verdicts := lookedUp.verdicts })

def huntClues (hunter : Hunter) (clues : Clues) : Dialogue Hunted :=
  match clues.seed? with
  | none =>
      .warn Diagnostic.noSeed.message
        (.done (.ok { clues, diagnostic := some .noSeed }, hunter))
  | some seed => do
      match ← hunter.harvester.harvest seed clues.length with
      | .error failure => return (.error failure, hunter)
      | .ok harvest =>
          match harvest.abandoned with
          | some ⟨page, reason⟩ =>
              let report : Report :=
                { clues
                  seed := some seed
                  pages := harvest.pages
                  diagnostic := some (.abandoned seed page reason) }
              return (.ok report, hunter)
          | none => hunter.conclude clues seed harvest

def huntLines (hunter : Hunter) (text : String) : Dialogue Hunted :=
  hunter.huntClues (.ofText text)

def hunt (hunter : Hunter) (text : String) : Dialogue Hunted :=
  match hunter.scribe with
  | none => .done (.error (.configuration .noScribe), hunter)
  | some scribe => do
      match ← scribe.write text with
      | .error failure => return (.error failure, hunter)
      | .ok lines => hunter.huntLines lines

end Hunter

end WordHunt
