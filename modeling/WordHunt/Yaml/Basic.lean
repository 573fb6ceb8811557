/-!
The values of a YAML document.  A table may have no two equal keys, and its keys are scalars.
-/

namespace WordHunt

inductive Yaml.Key where
  | boolean (value : Bool)
  | integer (value : Int)
  | real (spelling : String)
  | text (content : String)
  deriving DecidableEq, Repr

inductive Yaml where
  | null
  /-- A scalar that does not fit its tag, or a reference to what is not finished yet. -/
  | void
  | boolean (value : Bool)
  | integer (value : Int)
  | real (spelling : String)
  | text (content : String)
  | list (items : List Yaml)
  | table (entries : List (Yaml.Key × Yaml))

namespace Yaml

def key? : Yaml → Option Key
  | .boolean value => some (.boolean value)
  | .integer value => some (.integer value)
  | .real spelling => some (.real spelling)
  | .text content => some (.text content)
  | .null | .void | .list _ | .table _ => none

/--
The entries whose keys and values alternate.  A key that is void is passed over, so that the
value behind it is taken for the key; a last key without a value gives no entry.
-/
def entriesOf? : List Yaml → Option (List (Key × Yaml))
  | .void :: nodes => entriesOf? nodes
  | key :: value :: nodes => do
      let key ← key.key?
      let entries ← entriesOf? nodes
      if (entries.map Prod.fst).contains key then none else some ((key, value) :: entries)
  | _ => some []

def tableOf? (nodes : List Yaml) : Option Yaml :=
  (entriesOf? nodes).map .table

end Yaml

end WordHunt
