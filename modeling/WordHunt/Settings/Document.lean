import WordHunt.Decimal.Reading
import WordHunt.Ini.Basic
import WordHunt.Json.Basic
import WordHunt.Settings.Value
import WordHunt.Text.Numeral
import WordHunt.Toml.Basic
import WordHunt.Yaml.Basic

/-!
Settings that documents give.  Dates become texts, null leaves a setting unset, and what an INI
document says is always a text.  What a reader takes for an integer stays one, also beyond the
signed machine words.  Where a format allows a name to come twice, the last one counts.
-/

namespace WordHunt.Setting

open Text

mutual

/-- A value of a TOML document; dates and times become texts. -/
def ofToml : Toml → Setting
  | .boolean value => .boolean value
  | .integer value => .integer value
  | .real value => .real value
  | .text value => .text value
  | .moment value => .text value
  | .array items => .list (ofTomlItems items)
  | .table members => .table (ofTomlMembers members)

def ofTomlItems : List Toml → List Setting
  | [] => []
  | item :: items => ofToml item :: ofTomlItems items

def ofTomlMembers : List (String × Toml) → List (String × Setting)
  | [] => []
  | (name, value) :: members => (name, ofToml value) :: ofTomlMembers members

end

mutual

def ofJson : Json → Setting
  | .null => .unset
  | .boolean value => .boolean value
  | .number (.integer value) => .integer value
  | .number (.real value) => .real value
  | .string value => .text value
  | .array items => .list (ofJsonItems items)
  | .object members => .table (ofJsonMembers members)

def ofJsonItems : List Json → List Setting
  | [] => []
  | item :: items => ofJson item :: ofJsonItems items

def ofJsonMembers : List (String × Json) → List (String × Setting)
  | [] => []
  | (name, value) :: members => (name, ofJson value) :: ofJsonMembers members

end

def ofJsonDocument? : Json → Option (List (String × Setting))
  | .object members => some (ofJsonMembers members)
  | _ => none

def addIniItem (state : Option String × List (String × Setting)) :
    Ini.Item → Option String × List (String × Setting)
  | .section name => (some name, setIn name (.table []) state.2)
  | .entry name value =>
      match state.1 with
      | none => (none, setIn name (.text value) state.2)
      | some header =>
          (header,
            alterIn header (fun table => .table (setIn name (.text value) table.members)) state.2)

/-- The members that an INI document gives; a section that is opened again begins anew. -/
def ofIni (document : Ini) : List (String × Setting) :=
  (document.foldl addIniItem (none, [])).2

def nameOfYaml : Yaml.Key → String
  | .boolean value => if value then "true" else "false"
  | .integer value => integerText value
  | .real spelling => spelling
  | .text content => content

mutual

/-- A YAML value; infinities and what is no number are refused. -/
def ofYaml? : Yaml → Option Setting
  | .null | .void => some .unset
  | .boolean value => some (.boolean value)
  | .integer value => some (.integer value)
  | .real spelling => (Decimal.read? spelling.toList).map .real
  | .text content => some (.text content)
  | .list items => (ofYamlItems? items).map .list
  | .table entries => (ofYamlEntries? [] entries).map .table

def ofYamlItems? : List Yaml → Option (List Setting)
  | [] => some []
  | item :: items => do
      let value ← ofYaml? item
      let values ← ofYamlItems? items
      some (value :: values)

def ofYamlEntries? (members : List (String × Setting)) :
    List (Yaml.Key × Yaml) → Option (List (String × Setting))
  | [] => some members
  | (key, value) :: entries => do
      let value ← ofYaml? value
      ofYamlEntries? (setIn (nameOfYaml key) value members) entries

end

def ofYamlDocument? : Yaml → Option (List (String × Setting))
  | .table entries => ofYamlEntries? [] entries
  | _ => none

end WordHunt.Setting
