import WordHunt.Json.Token

/-!
The structure of a JSON text, with its strings and numbers as they are written.  Tokens are read
one at a time by a machine that keeps the arrays and objects still open on a stack, so nothing
limits how deeply they may be nested.
-/

namespace WordHunt.Json

inductive Tree where
  | null
  | boolean (value : Bool)
  | number (numeral : Numeral)
  | string (units : List StringUnit)
  | array (items : List Tree)
  | object (members : List (List StringUnit × Tree))

inductive Open where
  | array (items : List Tree)
  | object (members : List (List StringUnit × Tree)) (name : List StringUnit)

inductive ReaderState where
  | atValue (stack : List Open)
  | atFirstItem (stack : List Open)
  | afterItem (stack : List Open) (items : List Tree)
  | atFirstName (stack : List Open)
  | atName (stack : List Open) (members : List (List StringUnit × Tree))
  | atColon (stack : List Open) (members : List (List StringUnit × Tree))
      (name : List StringUnit)
  | afterMember (stack : List Open) (members : List (List StringUnit × Tree))
  | finished (tree : Tree)

namespace ReaderState

def give (tree : Tree) : List Open → ReaderState
  | [] => .finished tree
  | .array items :: stack => .afterItem stack (tree :: items)
  | .object members name :: stack => .afterMember stack ((name, tree) :: members)

def begin? (stack : List Open) : Token → Option ReaderState
  | .null => some (give .null stack)
  | .boolean value => some (give (.boolean value) stack)
  | .number numeral => some (give (.number numeral) stack)
  | .string units => some (give (.string units) stack)
  | .openArray => some (.atFirstItem stack)
  | .openObject => some (.atFirstName stack)
  | _ => none

def step? : ReaderState → Token → Option ReaderState
  | .atValue stack, token => begin? stack token
  | .atFirstItem stack, .closeArray => some (give (.array []) stack)
  | .atFirstItem stack, token => begin? (.array [] :: stack) token
  | .afterItem stack items, .comma => some (.atValue (.array items :: stack))
  | .afterItem stack items, .closeArray => some (give (.array items.reverse) stack)
  | .atFirstName stack, .closeObject => some (give (.object []) stack)
  | .atFirstName stack, .string name => some (.atColon stack [] name)
  | .atName stack members, .string name => some (.atColon stack members name)
  | .atColon stack members name, .colon => some (.atValue (.object members name :: stack))
  | .afterMember stack members, .comma => some (.atName stack members)
  | .afterMember stack members, .closeObject => some (give (.object members.reverse) stack)
  | _, _ => none

def tree? : ReaderState → Option Tree
  | .finished tree => some tree
  | _ => none

end ReaderState

def Tree.ofTokens? (tokens : List Token) : Option Tree :=
  (tokens.foldlM ReaderState.step? (.atValue [])).bind ReaderState.tree?

def Tree.ofText? (s : List Char) : Option Tree :=
  (tokens? s).bind Tree.ofTokens?

end WordHunt.Json
