import WordHunt.Ini.Reader
import WordHunt.Json.Reader
import WordHunt.Json5.Reader
import WordHunt.Ron.Reader
import WordHunt.Settings.Document
import WordHunt.Toml.Reader
import WordHunt.Yaml.Reader

/-!
The formats that a settings file may have, told apart by the ending of its name.  Each of them
gives names with values, of which the last one of a name counts.
-/

namespace WordHunt

inductive SettingsFormat where
  | toml
  | json
  | yaml
  | ini
  | ron
  | json5
  deriving DecidableEq, Repr

namespace SettingsFormat

def all : List SettingsFormat :=
  [.toml, .json, .yaml, .ini, .ron, .json5]

def endings : SettingsFormat → List String
  | .toml => ["toml"]
  | .json => ["json"]
  | .yaml => ["yaml", "yml"]
  | .ini => ["ini"]
  | .ron => ["ron"]
  | .json5 => ["json5"]

def ofEnding? (ending : String) : Option SettingsFormat :=
  all.find? fun format => format.endings.contains ending

def read? (format : SettingsFormat) (s : List Char) : Option (List (String × Setting)) :=
  match format with
  | .toml => (Toml.ofChars? s).map Setting.ofTomlMembers
  | .json => (Json.ofChars? s).bind Setting.ofJsonDocument?
  | .yaml => (Yaml.ofChars? s).bind Setting.ofYamlDocument?
  | .ini => (Ini.ofChars? s).map Setting.ofIni
  | .ron => (Ron.ofChars? s).bind Setting.ofJsonDocument?
  | .json5 => (Json5.ofChars? s).bind Setting.ofJsonDocument?

end SettingsFormat

end WordHunt
