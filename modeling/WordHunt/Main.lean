import WordHunt.Command.Perform
import WordHunt.Exchange.Client
import WordHunt.Exchange.Clock
import WordHunt.Settings.Environment

/-!
The program.  It reads the files that its command line names, does what the command line asks
for, and prints what comes of it.  It has no network of its own, so every service is out of
reach.
-/

namespace WordHunt

def Unreadable.ofError : IO.Error → Unreadable
  | .noFileOrDirectory .. => .missing
  | .inappropriateType .. => .directory
  | .permissionDenied .. => .forbidden
  | error => .other error.toString

def readFile (path : String) : IO (Except Unreadable ByteArray) := do
  try
    return .ok (← IO.FS.readBinFile path)
  catch error =>
    return .error (.ofError error)

def readVariables : IO (List (String × String)) :=
  Settings.places.filterMapM fun place => do
    let name := Setting.variableName place
    return (← IO.getEnv name).map (name, ·)

def readSurroundings (arguments : List String) : IO Surroundings := do
  let paths := filesFor arguments
  let files ← paths.mapM fun path => return (path, ← readFile path)
  let input ←
    if paths.any Surroundings.isInput then (← IO.getStdin).readBinToEnd else pure .empty
  return {
    file := fun path => (files.lookup path).getD (.error .missing)
    input
    environment := ← readVariables }

/--
Holds a dialogue with nobody, by the clock: it waits and warns, and every request stays
unanswered.
-/
def holdAlone {α : Type} : Dialogue α → IO (Option α)
  | .done value => return some value
  | .ask _ attempt next => do
      let clock : Clock Unit := .stoppedAt (← IO.monoNanosNow)
      match clock.deadline? () attempt.budget with
      | none => return none
      | some _ => holdAlone (next { outcome := .unreachable "no network" })
  | .pause span next => do
      IO.sleep span.millis.toUInt32
      holdAlone next
  | .warn text next => do
      IO.eprintln ("warning: " ++ text)
      holdAlone next

end WordHunt

def main (arguments : List String) : IO UInt32 := do
  let surroundings ← WordHunt.readSurroundings arguments
  match ← WordHunt.holdAlone (WordHunt.perform surroundings arguments) with
  | none =>
      IO.eprintln "overflow when adding duration to instant"
      return 101
  | some ending =>
      IO.print ending.output
      match ending.complaint with
      | some complaint => IO.eprintln complaint
      | none => if ending.code = 2 then IO.eprint WordHunt.usageText
      return ending.code.toUInt32
