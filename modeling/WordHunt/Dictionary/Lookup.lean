import WordHunt.Dictionary.Verdicts
import WordHunt.Exchange.Dialogue
import WordHunt.Text.Case

/-!
Looking words up in a dictionary, one request a word.  A word is dropped only if the dictionary
says that it has no such entry; when it gives no clear answer the word is taken to exist.
-/

namespace WordHunt

open Text

structure Dictionary where
  /-- The address to which a word, in lower case, is appended. -/
  lookupUrl : String
  budget : Duration
  deriving DecidableEq, Repr

inductive Verdict where
  | remembered (exist : Bool)
  | lengthMismatch
  | found
  | notFound
  | inconclusive
  deriving DecidableEq, Repr

namespace Verdict

def exist : Verdict → Bool
  | .remembered exist => exist
  | .lengthMismatch | .notFound => false
  | .found | .inconclusive => true

def isFresh : Verdict → Bool
  | .remembered _ | .lengthMismatch => false
  | .found | .notFound | .inconclusive => true

def name : Verdict → String
  | .remembered true => "Cached(true)"
  | .remembered false => "Cached(false)"
  | .lengthMismatch => "LengthMismatch"
  | .found => "Found"
  | .notFound => "NotFound"
  | .inconclusive => "Inconclusive"

end Verdict

namespace Dictionary

def defaultLookupUrl : String :=
  "https://api.dictionaryapi.dev/api/v2/entries/en/"

def defaultBudget : Duration :=
  .ofSecs 10

def lookupRequest (dictionary : Dictionary) (word : String) : Request :=
  .get (dictionary.lookupUrl ++ lowerCase word)

def judge (attempt : Attempt) (reply : Reply) : Verdict × Option String :=
  if attempt.isOver reply.cancelled reply.elapsed then
    (.inconclusive, some "dictionary lookup past deadline, keeping word")
  else
    match reply.outcome with
    | .response response =>
        if response.status = 200 then (.found, none)
        else if response.status = 404 then (.notFound, none)
        else (.inconclusive, some "inconclusive dictionary lookup, keeping word")
    | .timedOut => (.inconclusive, some "dictionary lookup timed out, keeping word")
    | .unreachable _ => (.inconclusive, some "dictionary lookup failed, keeping word")

def lookup (dictionary : Dictionary) (word : String) : Dialogue Verdict :=
  let attempt : Attempt := ⟨1, dictionary.budget⟩
  .ask (dictionary.lookupRequest word) attempt fun reply =>
    match judge attempt reply with
    | (verdict, none) => .done verdict
    | (verdict, some warning) => .warn warning (.done verdict)

def decideOn (dictionary : Dictionary) (word : String) (length : Nat) : Dialogue Verdict :=
  if word.length = length then dictionary.lookup word else .done .lengthMismatch

def check (dictionary : Dictionary) (verdicts : Verdicts) (word : String) (length : Nat) :
    Dialogue (Verdict × Verdicts) :=
  match verdicts.get? word length with
  | some exist => .done (.remembered exist, verdicts)
  | none => do
      let verdict ← dictionary.decideOn word length
      return (verdict, verdicts.insert word length verdict.exist)

def validate (dictionary : Dictionary) (verdicts : Verdicts) (word : String) (length : Nat) :
    Dialogue (Bool × Verdicts) := do
  let (verdict, verdicts) ← dictionary.check verdicts word length
  return (verdict.exist, verdicts)

end Dictionary

end WordHunt
