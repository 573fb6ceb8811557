import WordHunt.Settings.Basic
import WordHunt.Settings.Environment
import WordHunt.Settings.Format
import WordHunt.Settings.Path
import WordHunt.Text.Utf8

/-!
Loading settings: the values of a file, and over them those of the environment.  What is set in
neither keeps its default.
-/

namespace WordHunt

open Text

structure SettingsFile where
  format : SettingsFormat
  text : String
  deriving DecidableEq, Repr

def SettingsFile.layer? (file : SettingsFile) : Option (List (String × Setting)) :=
  file.format.read? (dropByteOrderMark file.text.toList)

inductive SettingsSource where
  | named (file : Option SettingsFile)
  | usual (file : Option SettingsFile)
  deriving DecidableEq, Repr

namespace Settings

def ofLayers? (layers : List (List (String × Setting))) : Option Settings :=
  (layers.foldl Setting.assignAll (.table [])).toSettings?

def load? (file : Option SettingsFile) (environment : List (String × String)) :
    Option Settings := do
  let layer ←
    match file with
    | some file => file.layer?
    | none => some []
  ofLayers? [layer, Setting.ofEnvironment environment]

def load (source : SettingsSource) (environment : List (String × String)) :
    Except Failure Settings :=
  let settings :=
    match source with
    | .named none => none
    | .named (some file) => load? (some file) environment
    | .usual file => load? file environment
  match settings with
  | some settings => .ok settings
  | none => .error .settings

end Settings

end WordHunt
