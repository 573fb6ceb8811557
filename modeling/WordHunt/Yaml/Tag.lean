import WordHunt.Text.HexDigit
import WordHunt.Text.Scan
import WordHunt.Yaml.Cursor

/-!
Tags, which say what kind of value a node is, and directives, which stand in front of a document
and can introduce short handles for the beginnings of tags.
-/

namespace WordHunt.Yaml

open Text

structure Tag where
  handle : String
  suffix : String
  deriving DecidableEq, Repr

inductive Directive where
  | version
  | handle (name meaning : String)
  deriving DecidableEq, Repr

def isUriChar (c : Char) : Bool :=
  c.isAlphanum || "-#;/?:@&=+$,_.!~*'()[]%".toList.contains c

def isTagChar (c : Char) : Bool :=
  isUriChar c && !isFlowMark c && c ≠ '!'

def percentByte? : List Char → Option Nat
  | '%' :: a :: b :: _ => do some ((← hexDigit? a) * 16 + (← hexDigit? b))
  | _ => none

/-- How many bytes a character has whose first byte is given. -/
def encodedSize? (byte : Nat) : Option Nat :=
  if byte < 0x80 then some 1
  else if 0xC0 ≤ byte && byte < 0xE0 then some 2
  else if 0xE0 ≤ byte && byte < 0xF0 then some 3
  else if 0xF0 ≤ byte && byte < 0xF8 then some 4
  else none

/--
The character at the head of an address.  The bytes of a character are put together as they are,
so that one of more than two bytes is never valid.
-/
def uriChar : Finder Char
  | [] => none
  | c :: s =>
      if c ≠ '%' then some (c, 1)
      else do
        let size ← encodedSize? (← percentByte? (c :: s))
        let bytes ← (List.range size).mapM fun index => percentByte? ((c :: s).drop (3 * index))
        let code := bytes.foldl (fun code byte => code * 0x100 + byte) 0
        if (bytes.drop 1).all (fun byte => byte / 0x40 = 2) ∧ code.isValidChar then
          some (Char.ofNat code, 3 * size)
        else none

def uriChars? (test : Char → Bool) (done : List Char) (size : Nat) :
    (skip : Nat) → List Char → Option (List Char × Nat)
  | _, [] => some (done.reverse, size)
  | skip + 1, _ :: s => uriChars? test done size skip s
  | 0, c :: s =>
      if test c then
        match uriChar (c :: s) with
        | some (unit, length) => uriChars? test (unit :: done) (size + length) (length - 1) s
        | none => none
      else some (done.reverse, size)

def handle : Finder (List Char)
  | '!' :: s =>
      let name := s.takeWhile isNameChar
      let closing := (s.drop name.length).head? = some '!'
      some ('!' :: name ++ (if closing then ['!'] else []),
        1 + name.length + if closing then 1 else 0)
  | _ => none

def isClosedHandle (name : List Char) : Bool :=
  2 ≤ name.length && name.getLast? = some '!'

def tag : Finder Tag
  | '!' :: '<' :: s => do
      let (chars, size) ← uriChars? isUriChar [] 0 0 s
      if s[size]? = some '>' then some (⟨"", String.ofList chars⟩, size + 3) else none
  | s => do
      let (name, start) ← handle s
      let (chars, size) ← uriChars? isTagChar [] 0 0 (s.drop start)
      if isClosedHandle name then
        if size = 0 then none
        else some (⟨String.ofList name, String.ofList chars⟩, start + size)
      else
        let rest := name.drop 1 ++ chars
        if rest = [] then some (⟨"", "!"⟩, start)
        else some (⟨"!", String.ofList rest⟩, start + size)

def commonHandle : String :=
  "tag:yaml.org,2002:"

/-- The tag with what its handle stands for, given the handles that were introduced. -/
def Tag.resolve? (handles : List (String × String)) (tag : Tag) : Option Tag :=
  match handles.lookup tag.handle with
  | some meaning => some { tag with handle := meaning }
  | none =>
      if tag.handle = "!!" then some { tag with handle := commonHandle }
      else if isClosedHandle tag.handle.toList then none
      else some tag

def versionPart? (s : List Char) : Option (List Char) :=
  let digits := s.takeWhile Char.isDigit
  if digits = [] ∨ 9 < digits.length then none else some digits

def version : Finder Directive := fun s => do
  let major ← versionPart? s
  match s.drop major.length with
  | '.' :: s => do
      let minor ← versionPart? s
      some (.version, major.length + minor.length + 1)
  | _ => none

def handleMeaning : Finder (List Char)
  | '!' :: s => (uriChars? isUriChar [] 0 0 s).map fun (chars, size) => ('!' :: chars, size + 1)
  | s => if s.head?.any isTagChar then uriChars? isUriChar [] 0 0 s else none

def handleDirective : Finder Directive := fun s => do
  let (name, start) ← handle s
  let blanks := ((s.drop start).takeWhile isSpace).length
  let rest := s.drop (start + blanks)
  let (meaning, size) ← handleMeaning rest
  if (name = ['!'] ∨ isClosedHandle name) ∧ atBlank (rest.drop size) then
    some (.handle (String.ofList name) (String.ofList meaning), start + blanks + size)
  else none

/-- The directive behind a percent sign.  One that is unknown introduces the empty handle. -/
def directive : Finder Directive := fun s => do
  let name := s.takeWhile isNameChar
  let rest := s.drop name.length
  let blanks := (rest.takeWhile isSpace).length
  let start := name.length + blanks
  if name = [] ∨ !atBlank rest then none
  else if name = "YAML".toList then
    (version (s.drop start)).map fun (directive, size) => (directive, start + size)
  else if name = "TAG".toList then
    (handleDirective (s.drop start)).map fun (directive, size) => (directive, start + size)
  else some (.handle "" "", (s.takeWhile fun c => !isBreak c).length)

end WordHunt.Yaml
