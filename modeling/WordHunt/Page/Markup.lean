import WordHunt.Text.Scan

/-!
The markup that matters on a word page: emphasis tags, which may split a word; spans that mark
their content as invalid; anchors; and the values of a tag's attributes.  Tag and attribute
names are read in any case.
-/

namespace WordHunt.Page

open Text

def emphasisNames : List (List Char) :=
  [['b'], ['s', 't', 'r', 'o', 'n', 'g'], ['e', 'm'], ['i'], ['u'], ['m', 'a', 'r', 'k']]

def tagRest? : List Char → Option Nat
  | [] => none
  | '>' :: _ => some 1
  | c :: s =>
      if isBlank c then (cutAt? '>' s).map fun (attributes, _) => attributes.length + 2
      else none

def emphasisTag : Finder Unit
  | '<' :: '/' :: s => (emphasisNames.findSome? (named s)).map fun size => ((), size + 2)
  | '<' :: s => (emphasisNames.findSome? (named s)).map fun size => ((), size + 1)
  | _ => none
where
  named (s name : List Char) : Option Nat :=
    (afterWord? name s).bind fun rest => (tagRest? rest).map (name.length + ·)

def isQuote (c : Char) : Bool :=
  c = '"' || c = '\''

/-- The length of an attribute's name, equals sign and opening quote, if it has one. -/
def assignment? (name s : List Char) : Option Nat := do
  let afterName ← afterWord? name s
  let blanks := afterName.takeWhile isBlank
  match afterName.drop blanks.length with
  | '=' :: afterEquals =>
      let more := afterEquals.takeWhile isBlank
      let quote := if (afterEquals.drop more.length).head?.any isQuote then 1 else 0
      some (name.length + blanks.length + 1 + more.length + quote)
  | _ => none

/--
Searches the values that a tag's attributes give to `name`.  A value runs from its assignment
to the next character that ends it; `inside` says whether some value is open, and `skip`
characters belong to an assignment.
-/
def searchValues {α : Type} (name : List Char) (ends : Char → Bool)
    (find : Option Char → List Char → Option α) :
    (before : Option Char) → (inside : Bool) → (skip : Nat) → List Char → Option α
  | _, _, _, [] => none
  | _, inside, skip + 1, c :: s => searchValues name ends find (some c) inside skip s
  | before, inside, 0, c :: s =>
      match if inside then find before (c :: s) else none with
      | some a => some a
      | none =>
          match if continuesWord before then none else assignment? name (c :: s) with
          | some size => searchValues name ends find (some c) true (size - 1) s
          | none => searchValues name ends find (some c) (inside && !ends c) 0 s

def wholeWord? (word : List Char) (before : Option Char) (s : List Char) : Option Unit :=
  match afterWord? word s with
  | some rest => if continuesWord before || continuesWord rest.head? then none else some ()
  | none => none

def invalidClasses : List (List Char) :=
  [['i', 'n', 'v', 'a', 'l', 'i', 'd'], ['r', 'd']]

def isInvalidClass (attributes : List Char) : Bool :=
  (searchValues ['c', 'l', 'a', 's', 's'] isQuote
    (fun before s => invalidClasses.findSome? (wholeWord? · before s))
    none false 0 attributes).isSome

/-- A span of an invalid class, from its tag to the next closing span tag. -/
def invalidSpan : Finder Unit
  | '<' :: s => do
      let afterName ← afterWord? ['s', 'p', 'a', 'n'] s
      if continuesWord afterName.head? then none
      let (attributes, rest) ← cutAt? '>' afterName
      if !isInvalidClass attributes then none
      let content ← beforeWord? ['<', '/', 's', 'p', 'a', 'n', '>'] rest
      some ((), attributes.length + content.length + 13)
  | _ => none

structure Anchor where
  attributes : List Char
  text : List Char
  deriving DecidableEq, Repr

def anchor : Finder Anchor
  | '<' :: s => do
      let afterName ← afterWord? ['a'] s
      if continuesWord afterName.head? then none
      let (attributes, rest) ← cutAt? '>' afterName
      let text ← beforeWord? ['<', '/', 'a', '>'] rest
      some (⟨attributes, text⟩, attributes.length + text.length + 7)
  | _ => none

end WordHunt.Page
