import WordHunt.Text.Scan

/-!
Going through a YAML text.  A cursor knows its line and its column, because both decide what a
character means.  Lines end at a line feed, a carriage return, or both together.
-/

namespace WordHunt.Yaml

structure Place where
  index : Nat := 0
  line : Nat := 0
  column : Nat := 0
  /-- Whether nothing but blanks stands before the place in its line. -/
  leading : Bool := true
  deriving DecidableEq, Repr

structure Cursor where
  place : Place := {}
  rest : List Char
  deriving DecidableEq, Repr

def isSpace (c : Char) : Bool :=
  c = ' ' || c = '\t'

def isBreak (c : Char) : Bool :=
  c = '\n' || c = '\r'

def isFlowMark (c : Char) : Bool :=
  c = ',' || c = '[' || c = ']' || c = '{' || c = '}'

def isNameChar (c : Char) : Bool :=
  c.isAlphanum || c = '_' || c = '-'

def isPairedReturn (c : Char) (s : List Char) : Bool :=
  c = '\r' && s.head? = some '\n'

def atLineEnd (s : List Char) : Bool :=
  s.head?.all isBreak

def atBlank (s : List Char) : Bool :=
  s.head?.all fun c => isSpace c || isBreak c

def atFlowMark (s : List Char) : Bool :=
  s.head?.any isFlowMark

def isIdleLine (s : List Char) : Bool :=
  match s.dropWhile isSpace with
  | '#' :: _ => true
  | s => atLineEnd s

def isDocumentMark (mark : Char) (s : List Char) : Bool :=
  [mark, mark, mark].isPrefixOf s && atBlank (s.drop 3)

def Place.after (place : Place) (c : Char) (s : List Char) : Place :=
  if isPairedReturn c s then { place with index := place.index + 1 }
  else if isBreak c then ⟨place.index + 1, place.line + 1, 0, true⟩
  else ⟨place.index + 1, place.line, place.column + 1, place.leading && isSpace c⟩

namespace Cursor

def dropFrom (test : Char → Bool) (place : Place) : List Char → Cursor
  | [] => ⟨place, []⟩
  | c :: s => if test c then dropFrom test (place.after c s) s else ⟨place, c :: s⟩

def dropWhile (test : Char → Bool) (cursor : Cursor) : Cursor :=
  dropFrom test cursor.place cursor.rest

def drop : Nat → Cursor → Cursor
  | size + 1, ⟨place, c :: s⟩ => drop size ⟨place.after c s, s⟩
  | _, cursor => cursor

def dropBreak (cursor : Cursor) : Cursor :=
  match cursor.rest with
  | '\r' :: '\n' :: _ => cursor.drop 2
  | c :: _ => if isBreak c then cursor.drop 1 else cursor
  | [] => cursor

def restOfLine? (cursor : Cursor) : Option Cursor :=
  let behind := cursor.dropWhile isSpace
  match behind.rest with
  | '#' :: _ =>
      if behind.place = cursor.place then none else some (behind.dropWhile fun c => !isBreak c)
  | _ => some behind

/--
Passes over blanks, comments and ends of lines, and tells whether a line ended.  A tab cannot
indent anything to less than `depth` columns.
-/
def gapOnto? (depth : Nat) (comment broken : Bool) (place : Place) :
    List Char → Option (Cursor × Bool)
  | [] => some (⟨place, []⟩, broken)
  | c :: s =>
      if isBreak c then gapOnto? depth false true (place.after c s) s
      else if comment || c = '#' then gapOnto? depth true broken (place.after c s) s
      else if c = '\t' && place.leading && place.column + 1 < depth && !isIdleLine s then none
      else if isSpace c then gapOnto? depth false broken (place.after c s) s
      else some (⟨place, c :: s⟩, broken)

def gap? (depth : Nat) (cursor : Cursor) : Option (Cursor × Bool) :=
  gapOnto? depth false false cursor.place cursor.rest

end Cursor

end WordHunt.Yaml
