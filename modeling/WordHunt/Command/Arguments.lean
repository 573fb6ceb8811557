/-!
The words of a command line.  A command comes with its operands and options; three options go
with every command and may also stand in front of it.  Behind a bare `--` everything is an
operand.  Arguments are looked at one after the other: what cannot stand in its place is an error
at once, and a call for help or for the version ends the reading.
-/

namespace WordHunt

inductive Command where
  | run (words : List String) (validate : Bool)
  | rules (file : String) (validate : Bool)
  | compile (file : String)
  | filter (rules words : String)
  deriving DecidableEq, Repr

inductive Invocation where
  | command (config : Option String) (command : Command)
  | version
  | help
  deriving DecidableEq, Repr

namespace CommandLine

inductive CommandName where
  | run
  | rules
  | compile
  | filter
  deriving DecidableEq, Repr

def CommandName.ofText? (text : String) : Option CommandName :=
  match text with
  | "run" => some .run
  | "rules" => some .rules
  | "compile" => some .compile
  | "filter" => some .filter
  | _ => none

inductive Switch where
  | verbose
  | jsonLogs
  | validate
  | version
  | help
  deriving DecidableEq, Repr

inductive FileOption where
  | config
  | rules
  | words
  deriving DecidableEq, Repr

inductive Part where
  | operand (text : String)
  | switch (kind : Switch)
  | file (kind : FileOption) (path : String)
  | unknown
  deriving DecidableEq, Repr

def Switch.ofName? (name : String) : Option Switch :=
  match name with
  | "verbose" => some .verbose
  | "json-logs" => some .jsonLogs
  | "validate" => some .validate
  | "version" => some .version
  | "help" => some .help
  | _ => none

def Switch.ofLetter? (letter : Char) : Option Switch :=
  match letter with
  | 'v' => some .verbose
  | 'V' => some .version
  | 'h' => some .help
  | _ => none

def FileOption.ofName? (name : String) : Option FileOption :=
  match name with
  | "config" => some .config
  | "rules" => some .rules
  | "words" => some .words
  | _ => none

inductive Argument where
  | word (text : String)
  | options (parts : List Part)
  | awaiting (kind : FileOption)
  | endOfOptions
  deriving DecidableEq, Repr

namespace Argument

def ofLong (option : List Char) : Argument :=
  let name := String.ofList (option.takeWhile (· ≠ '='))
  match option.dropWhile (· ≠ '='), Switch.ofName? name, FileOption.ofName? name with
  | [], some kind, _ => .options [.switch kind]
  | [], none, some kind => .awaiting kind
  | _ :: path, none, some kind => .options [.file kind (String.ofList path)]
  | _, _, _ => .options [.unknown]

def ofLetter (letter : Char) : Part :=
  match Switch.ofLetter? letter with
  | some kind => .switch kind
  | none => .unknown

/-- Reads an argument; a single dash alone is a word. -/
def read (argument : String) : Argument :=
  match argument.toList with
  | ['-', '-'] => .endOfOptions
  | '-' :: '-' :: option => ofLong option
  | '-' :: letter :: letters => .options ((letter :: letters).map ofLetter)
  | _ => .word argument

def isPath (argument : String) : Bool :=
  match argument.toList with
  | '-' :: _ :: _ => false
  | _ => true

end Argument

def parts : List String → List Part
  | [] => []
  | argument :: arguments =>
      match Argument.read argument with
      | .endOfOptions => arguments.map .operand
      | .word text => .operand text :: parts arguments
      | .options done => done ++ parts arguments
      | .awaiting kind =>
          match arguments with
          | [] => [.unknown]
          | path :: arguments =>
              if Argument.isPath path then .file kind path :: parts arguments else [.unknown]

inductive Place where
  | front
  | behind (name : CommandName)
  deriving DecidableEq, Repr

namespace Place

def allowsSwitch (place : Place) : Switch → Bool
  | .verbose | .jsonLogs | .help => true
  | .version => place = .front
  | .validate => place = .behind .run || place = .behind .rules

def allowsFile (place : Place) : FileOption → Bool
  | .config => true
  | .rules | .words => place = .behind .filter

/-- Whether an operand may follow those given already; an empty text names no file. -/
def allowsOperand (place : Place) (given : List String) (text : String) : Bool :=
  match place with
  | .behind .run => true
  | .behind .rules | .behind .compile => given = [] && text ≠ ""
  | .front | .behind .filter => false

end Place

structure Given where
  config : Option String := none
  rules : Option String := none
  words : Option String := none
  jsonLogs : Bool := false
  validate : Bool := false
  operands : List String := []
  asked : Option Invocation := none
  deriving DecidableEq, Repr

namespace Given

def setFile? (given : Given) (path : String) : FileOption → Option Given
  | .config => if given.config = none ∧ path ≠ "" then some { given with config := path } else none
  | .rules => if given.rules = none ∧ path ≠ "" then some { given with rules := path } else none
  | .words => if given.words = none ∧ path ≠ "" then some { given with words := path } else none

def turnOn? (given : Given) : Switch → Option Given
  | .verbose => some given
  | .jsonLogs => if given.jsonLogs then none else some { given with jsonLogs := true }
  | .validate => if given.validate then none else some { given with validate := true }
  | .help => some { given with asked := some .help }
  | .version => some { given with asked := some .version }

def add? (place : Place) (given : Given) (part : Part) : Option Given :=
  if given.asked.isSome then some given
  else
    match part with
    | .operand text =>
        if place.allowsOperand given.operands text then
          some { given with operands := given.operands ++ [text] }
        else none
    | .switch kind => if place.allowsSwitch kind then given.turnOn? kind else none
    | .file kind path => if place.allowsFile kind then given.setFile? path kind else none
    | .unknown => none

def command? (given : Given) (name : CommandName) : Option Command :=
  match name, given.operands, given.rules, given.words with
  | .run, text, _, _ => some (.run text given.validate)
  | .rules, [file], _, _ => some (.rules file given.validate)
  | .compile, [file], _, _ => some (.compile file)
  | .filter, _, some rules, some words => some (.filter rules words)
  | _, _, _, _ => none

end Given

def helpOn? : List String → Option Invocation
  | [] => some .help
  | [topic] =>
      if topic = "help" ∨ (CommandName.ofText? topic).isSome then some .help else none
  | _ => none

def readCommand? (config : Option String) (name : String) (arguments : List String) :
    Option Invocation :=
  if name = "help" then helpOn? arguments
  else do
    let name ← CommandName.ofText? name
    let given ← (parts arguments).foldlM (Given.add? (.behind name)) {}
    match given.asked with
    | some invocation => some invocation
    | none => do
        let command ← given.command? name
        some (.command (given.config <|> config) command)

/-- Reads a command behind a settings file that cannot be: all that it may still get is help. -/
def helpBehind? : List String → Option Invocation
  | [] => none
  | argument :: arguments =>
      match Argument.read argument with
      | .word name => (readCommand? none name arguments).filter (· = .help)
      | _ => none

def readFront? (front : Given) : List String → Option Invocation
  | [] => none
  | argument :: arguments =>
      match Argument.read argument with
      | .word name => readCommand? front.config name arguments
      | .options options => do
          let front ← options.foldlM (Given.add? .front) front
          front.asked <|> readFront? front arguments
      | .awaiting kind =>
          match arguments with
          | [] => none
          | path :: arguments =>
              if !Argument.isPath path || !Place.front.allowsFile kind then none
              else
                match front.setFile? path kind with
                | some front => readFront? front arguments
                | none => helpBehind? arguments
      | .endOfOptions => none

end CommandLine

def Invocation.ofArguments? (arguments : List String) : Option Invocation :=
  CommandLine.readFront? {} arguments

end WordHunt
