import WordHunt.Ron.Token

/-!
Reading RON texts as JSON values.  A structure and a map are objects, a list and a tuple are
arrays; a name alone, a unit and a missing option are null, and an option that is there is what it
holds.  The names of structures say nothing.  Tokens are read one at a time by a
machine that keeps what is open on a stack, which has a limit.
-/

namespace WordHunt.Ron

/-- The most room that what is open around a value may take. -/
def maxDepth : Nat := 128

inductive Open where
  | items (round : Bool) (items : List Json)
  | members (round : Bool) (members : List (String × Json)) (name : String)
  | option

inductive Phase where
  | value
  | named (name : String)
  | opened
  | openedNamed (name : String)
  | item (round : Bool) (items : List Json)
  | afterItem (round : Bool) (items : List Json)
  | member (round : Bool) (members : List (String × Json))
  | colon (round : Bool) (members : List (String × Json)) (name : String)
  | afterMember (round : Bool) (members : List (String × Json))
  | afterOption (value : Json) (comma : Bool)
  | finished (value : Json)

def Open.depth : Open → Nat
  | .items _ _ => 2
  | .members _ _ _ => 2
  | .option => 1

structure State where
  stack : List Open := []
  phase : Phase := .value

namespace State

def give (value : Json) : List Open → State
  | [] => ⟨[], .finished value⟩
  | .items round items :: stack => ⟨stack, .afterItem round (value :: items)⟩
  | .members round members name :: stack => ⟨stack, .afterMember round ((name, value) :: members)⟩
  | .option :: stack => ⟨stack, .afterOption value false⟩

def infinities : List String :=
  ["inf", "inff32", "inff64"]

def noNumbers : List String :=
  ["NaN", "NaNf32", "NaNf64"]

def lone? (name : String) : Option Json :=
  if name = "true" then some (.boolean true)
  else if name = "false" then some (.boolean false)
  else if infinities.contains name then some (.number (.real Decimal.infinity))
  else if noNumbers.contains name then some (.number (.real Decimal.notANumber))
  else if name = "Some" then none
  else some .null

def isConstant (name : String) : Bool :=
  (["true", "false", "None"] ++ infinities ++ noNumbers).contains name

def depth : List Open → Nat
  | [] => 0
  | outer :: stack => outer.depth + depth stack

def nest? (stack : List Open) (phase : Phase) : Option State :=
  if depth stack < maxDepth then some ⟨stack, phase⟩ else none

def beginShallow? (stack : List Open) : Token → Option State
  | .name name => some ⟨stack, .named name⟩
  | .number value => some (give (.number value) stack)
  | .string content | .text content => some (give (.string content) stack)
  | .unit => some (give .null stack)
  | .openParen => nest? stack .opened
  | .openBracket => nest? stack (.item false [])
  | .openBrace => nest? stack (.member false [])
  | _ => none

def begin? (stack : List Open) (token : Token) : Option State :=
  if depth stack ≤ maxDepth then beginShallow? stack token else none

def closesItems : Bool → Token → Bool
  | true, .closeParen => true
  | false, .closeBracket => true
  | _, _ => false

def closesMembers : Bool → Token → Bool
  | true, .closeParen => true
  | false, .closeBrace => true
  | _, _ => false

def memberName? : Bool → Token → Option String
  | true, .name name => some name
  | false, .string content | false, .text content => some content
  | _, _ => none

def advance? (state : State) (token : Token) : Option State :=
  let stack := state.stack
  match state.phase, token with
  | .value, token => begin? stack token
  | .opened, .closeParen => some (give (.array []) stack)
  | .opened, .name name =>
      if depth stack + 2 ≤ maxDepth then some ⟨stack, .openedNamed name⟩ else none
  | .opened, token => begin? (.items true [] :: stack) token
  | .item round items, token =>
      if closesItems round token then some (give (.array items.reverse) stack)
      else begin? (.items round items :: stack) token
  | .afterItem round items, .comma => some ⟨stack, .item round items⟩
  | .afterItem round items, token =>
      if closesItems round token then some (give (.array items.reverse) stack) else none
  | .member round members, token =>
      if closesMembers round token then some (give (Json.ofMembers members.reverse) stack)
      else (memberName? round token).map fun name => ⟨stack, .colon round members name⟩
  | .colon round members name, .colon => some ⟨.members round members name :: stack, .value⟩
  | .afterMember round members, .comma => some ⟨stack, .member round members⟩
  | .afterMember round members, token =>
      if closesMembers round token then some (give (Json.ofMembers members.reverse) stack)
      else none
  | .afterOption value false, .comma => some ⟨stack, .afterOption value true⟩
  | .afterOption value _, .closeParen => some (give value stack)
  | _, _ => none

def afterName? (name : String) (stack : List Open) : Token → Option State
  | .openParen =>
      if isConstant name then none
      else if name = "Some" then some ⟨.option :: stack, .value⟩
      else nest? stack .opened
  | .unit =>
      if isConstant name ∨ name = "Some" ∨ maxDepth ≤ depth stack then none
      else some (give (.array []) stack)
  | token => do
      let value ← lone? name
      (give value stack).advance? token

def step? (state : State) (token : Token) : Option State :=
  match state.phase with
  | .named name => afterName? name state.stack token
  | .openedNamed name =>
      match token with
      | .colon => some ⟨.members true [] name :: state.stack, .value⟩
      | token => afterName? name (.items true [] :: state.stack) token
  | _ => state.advance? token

def value? (state : State) : Option Json :=
  match state.phase with
  | .named name => if state.stack.isEmpty then lone? name else none
  | .finished value => some value
  | _ => none

end State

def features : List String :=
  ["unwrap_newtypes", "implicit_some", "unwrap_variant_newtypes", "explicit_struct_names"]

def afterFeatures? : List Token → Option (List Token)
  | .name name :: .comma :: .closeParen :: .closeBracket :: tokens =>
      if features.contains name then some tokens else none
  | .name name :: .comma :: tokens =>
      if features.contains name then afterFeatures? tokens else none
  | .name name :: .closeParen :: .closeBracket :: tokens =>
      if features.contains name then some tokens else none
  | _ => none

def afterAttributes? : (fuel : Nat) → List Token → Option (List Token)
  | fuel + 1, .hash :: .bang :: .openBracket :: .name "enable" :: .openParen :: tokens =>
      (afterFeatures? tokens).bind (afterAttributes? fuel)
  | fuel + 1, .hash :: .bang :: .openBracket :: .name "type" :: .equals :: .string _ ::
      .closeBracket :: tokens => afterAttributes? fuel tokens
  | fuel + 1, .hash :: .bang :: .openBracket :: .name "schema" :: .equals :: .string _ ::
      .closeBracket :: tokens => afterAttributes? fuel tokens
  | _, tokens => some tokens

def ofChars? (s : List Char) : Option Json := do
  let tokens ← tokens? s
  let tokens ← afterAttributes? tokens.length tokens
  let state ← tokens.foldlM State.step? {}
  state.value?

end WordHunt.Ron
