import WordHunt.Decimal.Reading
import WordHunt.Settings.Value
import WordHunt.Text.Case
import WordHunt.Text.Scan

/-!
Settings given by environment variables.  A variable belongs to the settings when its name, in
lower case, begins with `wordle_sieve__`; in the rest of the name two underscores separate the
parts of a place.
-/

namespace WordHunt.Setting

open Text

def variableHead : List Char :=
  "wordle_sieve__".toList

def place? (name : String) : Option String :=
  let small := lower name.toList
  if variableHead.isPrefixOf small then
    some (String.ofList (replaceText ['_', '_'] ['.'] (small.drop variableHead.length)))
  else none

def variableName (place : String) : String :=
  String.ofList
    ((variableHead ++ replaceText ['.'] ['_', '_'] place.toList).map Char.toUpper)

def readWord? (s : List Char) : Option Int :=
  (Decimal.readInteger? s).filter fitsSigned

def ofVariable (value : String) : Setting :=
  let small := lowerCase value
  if small = "true" then .boolean true
  else if small = "false" then .boolean false
  else
    match readWord? value.toList, Decimal.read? value.toList with
    | some number, _ => .integer number
    | none, some number => .real number
    | none, none => .text value

def ofEnvironment (environment : List (String × String)) : List (String × Setting) :=
  environment.filterMap fun (name, value) =>
    (place? name).map fun place => (place, ofVariable value)

end WordHunt.Setting
