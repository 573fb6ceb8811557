import WordHunt.Json5.Token

/-!
Reading JSON5 texts.  Their values are JSON values, with infinities and what is no number in
addition.  Tokens are read one at a time by a machine that keeps the arrays and objects still
open on a stack.  A comma may follow the last item of an array and the last member of an object.
-/

namespace WordHunt.Json5

inductive Open where
  | array (items : List Json)
  | object (members : List (String × Json)) (name : String)

inductive Phase where
  | value
  | item (items : List Json)
  | afterItem (items : List Json)
  | name (members : List (String × Json))
  | colon (members : List (String × Json)) (name : String)
  | afterMember (members : List (String × Json))
  | finished (value : Json)

structure State where
  stack : List Open := []
  phase : Phase := .value

namespace State

def give (value : Json) : List Open → State
  | [] => ⟨[], .finished value⟩
  | .array items :: stack => ⟨stack, .afterItem (value :: items)⟩
  | .object members name :: stack => ⟨stack, .afterMember ((name, value) :: members)⟩

def closeArray (items : List Json) (stack : List Open) : State :=
  give (.array items.reverse) stack

def closeObject (members : List (String × Json)) (stack : List Open) : State :=
  give (Json.ofMembers members.reverse) stack

def keyword? (text : String) : Option Json :=
  if text = "null" then some .null
  else if text = "true" then some (.boolean true)
  else if text = "false" then some (.boolean false)
  else if text = "Infinity" then some (.number (.real Decimal.infinity))
  else if text = "NaN" then some (.number (.real Decimal.notANumber))
  else none

def begin? (stack : List Open) : Token → Option State
  | .name text false => (keyword? text).map (give · stack)
  | .number value => some (give (.number value) stack)
  | .string text => some (give (.string text) stack)
  | .openArray => some ⟨stack, .item []⟩
  | .openObject => some ⟨stack, .name []⟩
  | _ => none

def step? (state : State) (token : Token) : Option State :=
  let stack := state.stack
  match state.phase, token with
  | .value, token => begin? stack token
  | .item items, .closeArray => some (closeArray items stack)
  | .item items, token => begin? (.array items :: stack) token
  | .afterItem items, .comma => some ⟨stack, .item items⟩
  | .afterItem items, .closeArray => some (closeArray items stack)
  | .name members, .closeObject => some (closeObject members stack)
  | .name members, .name text _ => some ⟨stack, .colon members text⟩
  | .name members, .string text => some ⟨stack, .colon members text⟩
  | .colon members name, .colon => some ⟨.object members name :: stack, .value⟩
  | .afterMember members, .comma => some ⟨stack, .name members⟩
  | .afterMember members, .closeObject => some (closeObject members stack)
  | _, _ => none

def value? (state : State) : Option Json :=
  match state.phase with
  | .finished value => some value
  | _ => none

end State

def ofChars? (s : List Char) : Option Json := do
  let tokens ← tokens? s
  let state ← tokens.foldlM State.step? {}
  state.value?

end WordHunt.Json5
