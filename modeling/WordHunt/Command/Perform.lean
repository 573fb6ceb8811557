import WordHunt.Command.Arguments
import WordHunt.Command.Surroundings
import WordHunt.Program
import WordHunt.Settings.Hunter

/-!
Performing commands.  A command either prints something or fails, and it prints nothing before
it fails.
-/

namespace WordHunt

open Text

def seedComment : Option Seed → String
  | some seed => "# seed: " ++ seed.toText ++ "\n"
  | none => "# seed: none (add an '<LETTER> AT <N>' rule)\n"

def compiledText (rules : String) : String :=
  let clues := Clues.ofText rules
  clues.toText ++ "\n" ++ seedComment clues.seed?

def filteredText (rules words : String) : String :=
  let words := wordList words
  let screening := (Clues.ofText rules).screen words
  joinWith "" (screening.accepted.map (· ++ "\n")) ++ "\n" ++
    numeralText screening.accepted.length ++ " of " ++ numeralText words.length ++
    " words match (" ++ numeralText screening.rejected ++ " rejected)\n"

namespace Command

def files (config : Option String) : Command → List String
  | .run [] _ => "-" :: Surroundings.settingsPaths config
  | .run _ _ => Surroundings.settingsPaths config
  | .rules file _ => file :: Surroundings.settingsPaths config
  | .compile file => [file]
  | .filter clueFile wordFile => [clueFile, wordFile]

abbrev Printed := Except Failure String

def report (hunt : Dialogue Hunter.Hunted) : Dialogue Printed := do
  let (report, _) ← hunt
  return report.map Report.toText

def filterFiles (surroundings : Surroundings) (clueFile wordFile : String) : Printed := do
  let (clueText, surroundings) := surroundings.read clueFile
  let clueText ← clueText
  let wordText ← (surroundings.read wordFile).1
  return filteredText clueText wordText

def prepare (surroundings : Surroundings) (config : Option String) (words : List String) :
    Except Failure (Settings × String) := do
  let settings ← surroundings.settings config
  let _ ← settings.apiKey
  let text ← if words = [] then (surroundings.read "-").1 else .ok (joinWith " " words)
  if allBlank text then .error (.configuration .clueTextBlank) else .ok (settings, text)

def perform (surroundings : Surroundings) (config : Option String) :
    Command → Dialogue Printed
  | .compile file => .done ((surroundings.read file).1.map compiledText)
  | .filter clueFile wordFile => .done (filterFiles surroundings clueFile wordFile)
  | .rules file validate =>
      match surroundings.settings config, (surroundings.read file).1 with
      | .ok settings, .ok lines => report ((settings.toHunter validate).huntLines lines)
      | .error failure, _ => .done (.error failure)
      | .ok _, .error failure => .done (.error failure)
  | .run words validate =>
      match prepare surroundings config words with
      | .ok (settings, text) => report ((settings.toHunter validate).hunt text)
      | .error failure => .done (.error failure)

end Command

structure Ending where
  code : Nat
  output : String := ""
  complaint : Option String := none
  deriving DecidableEq, Repr

def Ending.ofPrinted : Command.Printed → Ending
  | .ok output => { code := 0, output }
  | .error failure => { code := 1, complaint := some ("error: " ++ failure.message) }

def usageText : String :=
  "Usage: " ++ programName ++ " [--config FILE] [-v] [--json-logs] COMMAND\n\n" ++
    "  run [TEXT]... [--validate]\n  rules FILE [--validate]\n  compile FILE\n" ++
    "  filter --rules FILE --words FILE\n"

def filesFor (arguments : List String) : List String :=
  match Invocation.ofArguments? arguments with
  | some (.command config command) => command.files config
  | _ => []

def perform (surroundings : Surroundings) (arguments : List String) : Dialogue Ending :=
  match Invocation.ofArguments? arguments with
  | none => .done { code := 2 }
  | some .version => .done { code := 0, output := versionText }
  | some .help => .done { code := 0, output := usageText }
  | some (.command config command) => do
      return .ofPrinted (← command.perform surroundings config)

theorem hold_perform_value {σ : Type} {surroundings : Surroundings} {arguments : List String}
    {config : Option String} {command : Command}
    (h : Invocation.ofArguments? arguments = some (.command config command)) (partner : Partner σ)
    (state : σ) :
    ((perform surroundings arguments).hold partner state).value =
      .ofPrinted ((command.perform surroundings config).hold partner state).value := by
  rw [perform, h]
  change (((command.perform surroundings config).bind _).hold partner state).value = _
  rw [Dialogue.hold_bind]
  rfl

end WordHunt
