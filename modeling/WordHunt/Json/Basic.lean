import WordHunt.Text.Numeral

/-!
JSON values.  An integer is kept exactly when it fits a word of 64 bits, signed or unsigned;
any other number is a floating-point number.  The members of an object are kept in the order of
their names, each name once.
-/

namespace WordHunt

inductive Json.Number where
  | integer (value : Int)
  | real (value : Float)

inductive Json where
  | null
  | boolean (value : Bool)
  | number (value : Json.Number)
  | string (text : String)
  | array (items : List Json)
  | object (members : List (String × Json))

namespace Json

open Text

def putMember (name : String) (value : Json) : List (String × Json) → List (String × Json)
  | [] => [(name, value)]
  | member :: members =>
      if name < member.1 then (name, value) :: member :: members
      else if name = member.1 then (name, value) :: members
      else member :: putMember name value members

/-- An object with the given members; the last one of a name counts. -/
def ofMembers (members : List (String × Json)) : Json :=
  .object (members.foldl (fun done (name, value) => putMember name value done) [])

def text? : Json → Option String
  | .string text => some text
  | _ => none

def member? (name : String) : Json → Option Json
  | .object members => members.lookup name
  | _ => none

/-- The index that a name spells, without leading zeros. -/
def index? (name : String) : Option Nat :=
  match name.toList with
  | '0' :: _ :: _ => none
  | digits => readNumeral wordBound digits

def child? (name : String) : Json → Option Json
  | .object members => members.lookup name
  | .array items => (index? name).bind (items[·]?)
  | _ => none

def follow? (names : List String) (value : Json) : Option Json :=
  names.foldlM (fun value name => value.child? name) value

end Json

end WordHunt
