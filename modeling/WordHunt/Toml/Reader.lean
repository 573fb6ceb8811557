import WordHunt.Text.Utf8
import WordHunt.Toml.Outline
import WordHunt.Toml.Scalar
import WordHunt.Toml.Token

/-!
Reading TOML documents.  Tokens are read one at a time by a machine that keeps the arrays and
inline tables still open on a stack, at most 80 of them, and a name has no more parts than that.
A byte order mark in front is no part of the document.  A document that breaks any rule is
refused as a whole.
-/

namespace WordHunt.Toml

/-- How deeply arrays and inline tables may be nested, and how many parts a name may have. -/
def maxDepth : Nat := 80

inductive Open where
  | array (items : List Toml)
  | table (members : Outline) (name : List String)

/-- Where a value belongs: the name behind it on its line, and what is open around it. -/
structure Target where
  name : List String
  stack : List Open

inductive NamePlace where
  | line
  | header (many : Bool)
  | member (members : Outline) (target : Target)

inductive Phase where
  | line
  | lineEnd
  | header
  | headerEnd (name : List String)
  | namePart (place : NamePlace) (parts : List String)
  | nameEnd (place : NamePlace) (parts : List String)
  | memberEquals (parts : List String) (members : Outline) (target : Target)
  | value (target : Target)
  | scalar (chars : List Char) (target : Target)
  | afterItem (items : List Toml) (target : Target)
  | member (members : Outline) (target : Target)
  | afterMember (members : Outline) (target : Target)

structure Draft where
  root : Outline := []
  header : List String := []
  phase : Phase := .line

def isNameChar (c : Char) : Bool :=
  c.isAlphanum || c = '_' || c = '-'

def Token.namePart? : Token → Option String
  | .bare chars => if chars.all isNameChar then some (String.ofList chars) else none
  | .text content false => some (String.ofList content)
  | _ => none

namespace Draft

def give? (draft : Draft) (value : Toml) (target : Target) : Option Draft :=
  match target.stack with
  | [] => do
      let root ← Outline.within? (Outline.assign? value target.name) draft.header draft.root
      some { draft with root, phase := .lineEnd }
  | .array items :: stack =>
      some { draft with phase := .afterItem (value :: items) { target with stack } }
  | .table members name :: stack => do
      let members ← Outline.assign? value name members
      some { draft with phase := .afterMember members { target with stack } }

def nest? (draft : Draft) (target : Target) (phase : Phase) : Option Draft :=
  if target.stack.length < maxDepth then some { draft with phase } else none

def value? (draft : Draft) (target : Target) : Token → Option Draft
  | .space _ => some draft
  | .newline =>
      match target.stack with
      | [] => none
      | _ :: _ => some draft
  | .text content _ => draft.give? (.text (String.ofList content)) target
  | .bare chars => some { draft with phase := .scalar chars target }
  | .openBracket =>
      draft.nest? target (.value { target with stack := .array [] :: target.stack })
  | .openBrace => draft.nest? target (.member [] target)
  | .closeBracket =>
      match target.stack with
      | .array items :: stack => draft.give? (.array items.reverse) { target with stack }
      | _ => none
  | _ => none

def memberValue (draft : Draft) (parts : List String) (members : Outline) (target : Target) :
    Draft :=
  let stack := .table members parts.reverse :: target.stack
  { draft with phase := .value { target with stack } }

def dotted? (draft : Draft) (place : NamePlace) (parts : List String) : Option Draft :=
  if parts.length < maxDepth then some { draft with phase := .namePart place parts } else none

def named? (draft : Draft) (parts : List String) : NamePlace → Token → Option Draft
  | .line, .equals => some { draft with phase := .value ⟨parts.reverse, []⟩ }
  | .member members target, .equals => some (draft.memberValue parts members target)
  | .member members target, .newline =>
      some { draft with phase := .memberEquals parts members target }
  | .header false, .closeBracket =>
      match parts with
      | [] => none
      | name :: names => do
          let root ← Outline.within? (Outline.openTable? name) names.reverse draft.root
          some { root, header := parts.reverse, phase := .lineEnd }
  | .header true, .closeBracket => some { draft with phase := .headerEnd parts }
  | _, _ => none

def advance? (draft : Draft) (token : Token) : Option Draft :=
  match draft.phase, token with
  | .line, .space _ | .line, .newline => some draft
  | .line, .openBracket => some { draft with phase := .header }
  | .line, token => do
      let part ← token.namePart?
      some { draft with phase := .nameEnd .line [part] }
  | .lineEnd, .space _ => some draft
  | .lineEnd, .newline => some { draft with phase := .line }
  | .lineEnd, _ => none
  | .header, .openBracket => some { draft with phase := .namePart (.header true) [] }
  | .header, .space _ => some { draft with phase := .namePart (.header false) [] }
  | .header, token => do
      let part ← token.namePart?
      some { draft with phase := .nameEnd (.header false) [part] }
  | .headerEnd (name :: names), .closeBracket => do
      let root ← Outline.within? (Outline.addTable? name) names.reverse draft.root
      some { root, header := (name :: names).reverse, phase := .lineEnd }
  | .headerEnd _, _ => none
  | .namePart _ _, .space _ => some draft
  | .namePart place parts, token => do
      let part ← token.namePart?
      some { draft with phase := .nameEnd place (part :: parts) }
  | .nameEnd _ _, .space _ => some draft
  | .nameEnd place parts, .dot => draft.dotted? place parts
  | .nameEnd place parts, token => draft.named? parts place token
  | .memberEquals _ _ _, .space _ | .memberEquals _ _ _, .newline => some draft
  | .memberEquals parts members target, .equals =>
      some (draft.memberValue parts members target)
  | .memberEquals _ _ _, _ => none
  | .value target, token => draft.value? target token
  | .scalar _ _, _ => none
  | .afterItem _ _, .space _ | .afterItem _ _, .newline => some draft
  | .afterItem items target, .comma =>
      some { draft with phase := .value { target with stack := .array items :: target.stack } }
  | .afterItem items target, .closeBracket => draft.give? (.array items.reverse) target
  | .afterItem _ _, _ => none
  | .member _ _, .space _ | .member _ _, .newline => some draft
  | .member members target, .closeBrace => draft.give? (.table (toMembers members)) target
  | .member members target, token => do
      let part ← token.namePart?
      some { draft with phase := .nameEnd (.member members target) [part] }
  | .afterMember _ _, .space _ | .afterMember _ _, .newline => some draft
  | .afterMember members target, .comma => some { draft with phase := .member members target }
  | .afterMember members target, .closeBrace => draft.give? (.table (toMembers members)) target
  | .afterMember _ _, _ => none

def settle? (draft : Draft) (chars : List Char) (target : Target) : Option Draft := do
  let chars := if chars.getLast? = some ' ' then chars.dropLast else chars
  let value ← scalar? chars
  draft.give? value target

def step? (draft : Draft) (token : Token) : Option Draft :=
  match draft.phase with
  | .scalar chars target =>
      match token with
      | .bare more => some { draft with phase := .scalar (chars ++ more) target }
      | .dot => some { draft with phase := .scalar (chars ++ ['.']) target }
      | .space true =>
          if isDate chars then some { draft with phase := .scalar (chars ++ [' ']) target }
          else draft.settle? chars target
      | token => (draft.settle? chars target).bind (·.advance? token)
  | _ => draft.advance? token

def finish? (draft : Draft) : Option (List (String × Toml)) :=
  match draft.phase with
  | .line | .lineEnd => some (toMembers draft.root)
  | .scalar chars target =>
      match target.stack with
      | [] => (draft.settle? chars target).map fun draft => toMembers draft.root
      | _ => none
  | _ => none

end Draft

def ofChars? (s : List Char) : Option (List (String × Toml)) := do
  let tokens ← tokens? (Text.dropByteOrderMark s)
  let draft ← tokens.foldlM Draft.step? {}
  draft.finish?

end WordHunt.Toml
