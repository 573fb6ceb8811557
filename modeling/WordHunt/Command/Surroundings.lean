import WordHunt.Failure
import WordHunt.Program
import WordHunt.Settings.Loading
import WordHunt.Text.Utf8

/-!
What a command finds around it: files, its input, and the environment.  A file called `-` is
the input, which can be read only once.
-/

namespace WordHunt

open Text

inductive Unreadable where
  | missing
  | directory
  | forbidden
  | malformed
  | other (reason : String)
  deriving DecidableEq, Repr

def Unreadable.message : Unreadable → String
  | .missing => "No such file or directory (os error 2)"
  | .directory => "Is a directory (os error 21)"
  | .forbidden => "Permission denied (os error 13)"
  | .malformed => "stream did not contain valid UTF-8"
  | .other reason => reason

structure Surroundings where
  file : String → Except Unreadable ByteArray
  input : ByteArray
  environment : List (String × String)

namespace Surroundings

def isInput (path : String) : Bool :=
  match path.toList.splitOn '/' with
  | ['-'] :: rest => rest.all fun part => part = [] || part = ['.']
  | _ => false

def decode (bytes : ByteArray) : Except Unreadable String :=
  match decodeUtf8? bytes with
  | some text => .ok text
  | none => .error .malformed

/-- Reads a text, and uses up the input if it comes from there. -/
def read (surroundings : Surroundings) (path : String) : Except Failure String × Surroundings :=
  let (bytes, surroundings) :=
    if isInput path then (.ok surroundings.input, { surroundings with input := .empty })
    else (surroundings.file path, surroundings)
  let text :=
    match bytes.bind decode with
    | .ok text => .ok text
    | .error reason => .error (.configuration (.unreadable path reason.message))
  (text, surroundings)

/-- The ending of the last name in a path, behind its last dot; a dot in front begins none. -/
def ending? (path : String) : Option String :=
  let name := path.toList.reverse.takeWhile (· ≠ '/')
  match name.dropWhile (· ≠ '.') with
  | '.' :: _ :: _ => some (String.ofList (name.takeWhile (· ≠ '.')).reverse)
  | _ => none

def format? (path : String) : Option SettingsFormat :=
  (ending? path).bind SettingsFormat.ofEnding?

def upToName? (path : String) : Option String :=
  let parts := (path.toList.splitOn '/').reverse.dropWhile fun part => part = [] || part = ['.']
  match parts with
  | [] | ['.', '.'] :: _ => none
  | parts => some (String.ofList (['/'].intercalate parts.reverse))

def pathsWithEnding (path : String) : List (String × SettingsFormat) :=
  match upToName? path with
  | none => []
  | some path =>
      SettingsFormat.all.flatMap fun format =>
        format.endings.map fun ending => (path ++ "." ++ ending, format)

def settingsPaths (config : Option String) : List String :=
  let path := config.getD programName
  path :: (pathsWithEnding path).map Prod.fst

def settingsFile (format : SettingsFormat) (bytes : ByteArray) : SettingsFile :=
  ⟨format, decodeLeniently bytes⟩

def settingsFile? (surroundings : Surroundings) (path : String) : Option SettingsFile :=
  match surroundings.file path with
  | .ok bytes => (format? path).map (settingsFile · bytes)
  | .error _ =>
      (pathsWithEnding path).findSome? fun (path, format) =>
        (surroundings.file path).toOption.map (settingsFile format)

def settings (surroundings : Surroundings) (config : Option String) : Except Failure Settings :=
  let source : SettingsSource :=
    match config with
    | some path => .named (surroundings.settingsFile? path)
    | none => .usual (surroundings.settingsFile? programName)
  Settings.load source surroundings.environment

end Surroundings

end WordHunt
