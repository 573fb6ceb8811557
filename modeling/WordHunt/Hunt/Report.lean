import WordHunt.Clues.Printer
import WordHunt.Screening

/-!
What a hunt reports, and the text in which it is shown.
-/

namespace WordHunt

open Text

inductive Diagnostic where
  | noSeed
  | abandoned (seed : Seed) (page : Nat) (reason : String)
  deriving DecidableEq, Repr

def Diagnostic.message : Diagnostic → String
  | .noSeed => "no exact-position rule to seed retrieval"
  | .abandoned seed page reason =>
      "retrieval for " ++ seed.toText ++ " abandoned at page " ++ numeralText page ++ ": " ++
        reason

structure Report where
  clues : Clues
  seed : Option Seed := none
  found : List String := []
  /-- How many different words the catalogue gave. -/
  collected : Nat := 0
  pages : Nat := 0
  rejected : Nat := 0
  tally : List (Violation.Kind × Nat) := []
  unknown : Nat := 0
  diagnostic : Option Diagnostic := none
  deriving DecidableEq

namespace Report

/-- A word set flush right in a column of eight characters. -/
def padLeft (word : String) : String :=
  String.ofList (List.replicate (8 - word.length) ' ' ++ word.toList)

def padRight (name : String) : String :=
  String.ofList (name.toList ++ List.replicate (8 - name.length) ' ')

def rows {α : Type} : List α → List (List α)
  | [] => []
  | first :: rest => (first :: rest.take 9) :: rows (rest.drop 9)
termination_by items => items.length

def foundLines (words : List String) : List String :=
  if words = [] then ["No words match these rules."]
  else
    ("Matches (" ++ numeralText words.length ++ "):") ::
      (rows words).map fun row => joinWith "" (row.map padLeft)

def seedLine (report : Report) (seed : Seed) : String :=
  "Seed: " ++ seed.toText ++ " (" ++ numeralText report.pages ++ " page(s), " ++
    numeralText report.collected ++ " distinct words)"

def rejectionLines (report : Report) : List String :=
  ("Rejected by rules: " ++ numeralText report.rejected) ::
    report.tally.map (fun (kind, count) =>
      "  " ++ padRight kind.name ++ " " ++ numeralText count) ++
    if 0 < report.unknown then ["Rejected by dictionary: " ++ numeralText report.unknown] else []

def toLines (report : Report) : List String :=
  "Rules:" :: report.clues.toLines.map ("  " ++ ·) ++ "" ::
    match report.diagnostic with
    | some diagnostic => ["No candidates retrieved: " ++ diagnostic.message]
    | none =>
        (report.seed.map report.seedLine).toList ++ foundLines report.found ++ "" ::
          report.rejectionLines

def toText (report : Report) : String :=
  joinWith "" (report.toLines.map (· ++ "\n"))

end Report

end WordHunt
