import WordHunt.Yaml.Basic
import WordHunt.Yaml.Token

/-!
Reading YAML documents.  A node that is left out is null.  A node with an anchor can be referred
to behind it; a later anchor of the same name takes its place.  Inside of brackets an item of a
list may be a table with one entry.
-/

namespace WordHunt.Yaml

def ofKind? (kind content : String) : Option Yaml :=
  if kind = "bool" then
    some (match boolean? content with
      | some value => .boolean value
      | none => .void)
  else if kind = "int" then
    some (match (Decimal.readInteger? content.toList).filter Text.fitsSigned with
      | some value => .integer value
      | none => .void)
  else if kind = "float" then some (if isReal content then .real content else .void)
  else if kind = "null" then
    some (if content = "~" ∨ content = "null" then .null else .void)
  else none

def ofScalar (plain : Bool) (tag : Option Tag) (content : String) : Yaml :=
  if !plain then .text content
  else
    match tag with
    | none => ofPlain content
    | some tag =>
        if tag.handle = commonHandle then (ofKind? tag.suffix content).getD (.text content)
        else .text content

structure Source where
  tokens : List Token
  handles : List (String × String) := []
  /-- The nodes with anchors, in order; one that is not finished yet is void. -/
  anchors : Array (String × Yaml) := #[]

abbrev Reader (α : Type) := StateT Source Option α

namespace Reader

def peek : Reader (Option Token) := do
  return (← get).tokens.head?

def skip : Reader Unit :=
  modify fun source => { source with tokens := source.tokens.drop 1 }

def accept (token : Token) : Reader Bool := do
  if (← peek) = some token then
    skip
    return true
  else return false

def isAt (tokens : List Token) : Reader Bool := do
  return (← peek).any tokens.contains

def reserve (name : String) : Reader Nat := do
  let source ← get
  set { source with anchors := source.anchors.push (name, .void) }
  return source.anchors.size

def keep (anchor : Option Nat) (node : Yaml) : Reader Unit :=
  match anchor with
  | some index =>
      modify fun source =>
        { source with anchors := source.anchors.modify index fun (name, _) => (name, node) }
  | none => pure ()

def lookUp (name : String) : Reader Yaml := do
  match (← get).anchors.toList.reverse.lookup name with
  | some node => return node
  | none => failure

def resolve (tag : Tag) : Reader Tag := do
  match tag.resolve? (← get).handles with
  | some tag => return tag
  | none => failure

def anchor? : Reader (Option Nat) := do
  match ← peek with
  | some (.anchor name) =>
      skip
      return some (← reserve name)
  | _ => return none

def tag? : Reader (Option Tag) := do
  match ← peek with
  | some (.tag tag) =>
      skip
      return some (← resolve tag)
  | _ => return none

def properties : Reader (Option Nat × Option Tag) := do
  match ← anchor? with
  | some anchor => return (some anchor, ← tag?)
  | none =>
      match ← tag? with
      | some tag => return (← anchor?, some tag)
      | none => return (none, none)

def table (nodes : List Yaml) : Reader Yaml :=
  match tableOf? nodes with
  | some table => pure table
  | none => failure

mutual

/-- A node; in some places it can be a block, and in some a list that is not indented. -/
def node (block flush : Bool) : (fuel : Nat) → Reader Yaml
  | 0 => failure
  | fuel + 1 => do
      match ← peek with
      | some (.reference name) =>
          skip
          lookUp name
      | _ =>
          let (anchor, tag) ← properties
          let value ← content block flush (anchor.isSome || tag.isSome) tag fuel
          keep anchor value
          return value

/-- A node behind its properties, without which it cannot be left out. -/
def content (block flush mayMiss : Bool) (tag : Option Tag) : (fuel : Nat) → Reader Yaml
  | 0 => failure
  | fuel + 1 => do
      match ← peek with
      | some (.scalar plain content) =>
          skip
          return ofScalar plain tag content
      | some .openBracket =>
          skip
          return .list (← bracketItems true fuel)
      | some .openBrace =>
          skip
          table (← braceNodes true fuel)
      | next =>
          if flush ∧ next = some .item then return .list (← flushItems fuel)
          else if block ∧ next = some .listStart then
            skip
            return .list (← blockItems fuel)
          else if block ∧ next = some .tableStart then
            skip
            table (← blockNodes fuel)
          else if mayMiss then return ofScalar true tag ""
          else failure

def nodeUnless (stops : List Token) (block flush : Bool) : (fuel : Nat) → Reader Yaml
  | 0 => failure
  | fuel + 1 => do
      if ← isAt stops then return .null else node block flush fuel

def blockItems : (fuel : Nat) → Reader (List Yaml)
  | 0 => failure
  | fuel + 1 => do
      if ← accept .item then
        let item ← nodeUnless [.item, .blockEnd] true false fuel
        return item :: (← blockItems fuel)
      else if ← accept .blockEnd then return []
      else failure

/-- The items of a list that is not indented, which ends where no dash follows. -/
def flushItems : (fuel : Nat) → Reader (List Yaml)
  | 0 => failure
  | fuel + 1 => do
      if ← accept .item then
        let item ← nodeUnless [.item, .key, .value, .blockEnd] true false fuel
        return item :: (← flushItems fuel)
      else return []

def blockNodes : (fuel : Nat) → Reader (List Yaml)
  | 0 => failure
  | fuel + 1 => do
      if ← accept .blockEnd then return []
      else
        let stops := [.key, .value, .blockEnd]
        let key ←
          if ← accept .key then nodeUnless stops true true fuel
          else if ← isAt [.value] then pure .null
          else failure
        let value ← if ← accept .value then nodeUnless stops true true fuel else pure .null
        return key :: value :: (← blockNodes fuel)

def pair : (fuel : Nat) → Reader Yaml
  | 0 => failure
  | fuel + 1 => do
      let key ← nodeUnless [.value, .comma, .closeBracket] false false fuel
      let value ←
        if ← accept .value then nodeUnless [.comma, .closeBracket] false false fuel
        else pure .null
      table [key, value]

def bracketItems (first : Bool) : (fuel : Nat) → Reader (List Yaml)
  | 0 => failure
  | fuel + 1 => do
      if ← accept .closeBracket then return []
      else if !first && !(← accept .comma) then failure
      else if ← accept .closeBracket then return []
      else
        let item ←
          if ← accept .key then pair fuel
          else if ← isAt [.value] then pair fuel
          else node false false fuel
        return item :: (← bracketItems false fuel)

def braceNodes (first : Bool) : (fuel : Nat) → Reader (List Yaml)
  | 0 => failure
  | fuel + 1 => do
      if ← accept .closeBrace then return []
      else if !first && !(← accept .comma) then failure
      else if ← accept .closeBrace then return []
      else
        let stops := [.value, .comma, .closeBrace]
        let key ←
          if ← accept .key then nodeUnless stops false false fuel
          else if ← isAt [.value] then pure .null
          else node false false fuel
        let value ←
          if ← accept .value then nodeUnless [.comma, .closeBrace] false false fuel
          else pure .null
        return key :: value :: (← braceNodes false fuel)

end

def root : Reader Yaml := do
  let fuel := 3 * (← get).tokens.length + 3
  node true false fuel

end Reader

def directives : List Token → List Directive × List Token
  | .directive directive :: tokens =>
      let (found, rest) := directives tokens
      (directive :: found, rest)
  | tokens => ([], tokens)

def handles (directives : List Directive) : List (String × String) :=
  (directives.filterMap fun
    | .handle name meaning => some (name, meaning)
    | .version => none).reverse

def bodyOf? (directives : List Directive) : List Token → Option (List Token)
  | .documentStart :: tokens => some tokens
  | tokens => if directives = [] then some tokens else none

/-- The root of the only document that tokens describe; without any there is an empty table. -/
def ofTokens? (tokens : List Token) : Option Yaml :=
  match tokens.dropWhile (· = .documentEnd) with
  | [] => some (.table [])
  | tokens => do
      let (found, rest) := directives tokens
      if 1 < found.count .version then none
      else
        let body ← bodyOf? found rest
        let (root, source) ← Reader.root.run { tokens := body, handles := handles found }
        if source.tokens.all (· = .documentEnd) then some root else none

def ofChars? (s : List Char) : Option Yaml :=
  (tokens? s).bind ofTokens?

end WordHunt.Yaml
