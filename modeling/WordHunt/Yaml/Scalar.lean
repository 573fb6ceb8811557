import WordHunt.Decimal.Reading
import WordHunt.Text.HexDigit
import WordHunt.Text.Numeral
import WordHunt.Text.Scan
import WordHunt.Yaml.Basic
import WordHunt.Yaml.Cursor

/-!
Scalars in quotation marks and plain scalars.  Both may go over several lines: the end of one
line becomes a blank, and each further one a line feed.  `depth` is the number of columns that
the lines of a scalar must be indented by.
-/

namespace WordHunt.Yaml

open Text

inductive Gap where
  | blanks (chars : List Char)
  | lines (escaped : Bool) (more : Nat)
  deriving DecidableEq, Repr

namespace Gap

def none : Gap :=
  .blanks []

def addBlank (c : Char) : Gap → Gap
  | .blanks chars => .blanks (c :: chars)
  | gap => gap

def addBreak : Gap → Gap
  | .blanks _ => .lines false 0
  | .lines escaped more => .lines escaped (more + 1)

def hasBreak : Gap → Bool
  | .blanks _ => false
  | .lines _ _ => true

def onto (done : List Char) : Gap → List Char
  | .blanks chars => chars ++ done
  | .lines false 0 => ' ' :: done
  | .lines _ more => List.replicate more '\n' ++ done

def add (c : Char) (s : List Char) (gap : Gap) : Gap :=
  if isSpace c then gap.addBlank c
  else if isPairedReturn c s then gap
  else gap.addBreak

end Gap

def escape : Finder Char
  | '0' :: _ => some ('\x00', 1)
  | 'a' :: _ => some ('\x07', 1)
  | 'b' :: _ => some ('\x08', 1)
  | 't' :: _ => some ('\t', 1)
  | '\t' :: _ => some ('\t', 1)
  | 'n' :: _ => some ('\n', 1)
  | 'v' :: _ => some ('\x0b', 1)
  | 'f' :: _ => some ('\x0c', 1)
  | 'r' :: _ => some ('\r', 1)
  | 'e' :: _ => some ('\x1b', 1)
  | ' ' :: _ => some (' ', 1)
  | '"' :: _ => some ('"', 1)
  | '/' :: _ => some ('/', 1)
  | '\\' :: _ => some ('\\', 1)
  | 'N' :: _ => some ('\u0085', 1)
  | '_' :: _ => some ('\u00A0', 1)
  | 'L' :: _ => some ('\u2028', 1)
  | 'P' :: _ => some ('\u2029', 1)
  | 'x' :: s => (codeChar? 2 s).map (·, 3)
  | 'u' :: s => (codeChar? 4 s).map (·, 5)
  | 'U' :: s => (codeChar? 8 s).map (·, 9)
  | _ => none

def breakSize : List Char → Nat
  | c :: s => if isPairedReturn c s then 2 else if isBreak c then 1 else 0
  | [] => 0

inductive QuotedUnit where
  | close
  | char (c : Char)
  | joint
  deriving DecidableEq, Repr

def quotedUnit (quote : Char) : Finder QuotedUnit
  | [] => none
  | '\'' :: '\'' :: _ => if quote = '\'' then some (.char '\'', 2) else some (.char '\'', 1)
  | '\\' :: s =>
      if quote = '\'' then some (.char '\\', 1)
      else if breakSize s = 0 then (escape s).map fun (c, size) => (.char c, size + 1)
      else if (s.drop (breakSize s)).head? = some quote then some (.close, breakSize s + 2)
      else some (.joint, breakSize s + 1)
  | c :: _ => if c = quote then some (.close, 1) else some (.char c, 1)

def quotedOnto? (quote : Char) (depth : Nat) (done : List Char) (gap : Gap) :
    (skip : Nat) → Place → List Char → Option (List Char × Cursor)
  | _, _, [] => none
  | skip + 1, place, c :: s => quotedOnto? quote depth done gap skip (place.after c s) s
  | 0, place, c :: s =>
      let behind := place.after c s
      if isSpace c || isBreak c then
        if gap.hasBreak && c = '\t' && place.column + 1 < depth then none
        else quotedOnto? quote depth done (gap.add c s) 0 behind s
      else if place.column + 1 < depth then none
      else if place.column = 0 && (isDocumentMark '-' (c :: s) || isDocumentMark '.' (c :: s)) then
        none
      else
        let done := gap.onto done
        match quotedUnit quote (c :: s) with
        | some (.close, size) => some (done.reverse, Cursor.drop size ⟨place, c :: s⟩)
        | some (.char unit, size) =>
            quotedOnto? quote depth (unit :: done) .none (size - 1) behind s
        | some (.joint, size) =>
            quotedOnto? quote depth done (.lines true 0) (size - 1) behind s
        | none => none

/--
The scalar that begins at a quotation mark.  Behind it in its line there may be only a comment,
or what goes on with the collection that it belongs to.
-/
def quoted? (quote : Char) (inFlow : Bool) (depth : Nat) (cursor : Cursor) :
    Option (String × Cursor) := do
  let inside := cursor.drop 1
  let (chars, behind) ← quotedOnto? quote depth [] .none 0 inside.place inside.rest
  let behind ← behind.restOfLine?
  let goesOn :=
    match behind.rest with
    | ':' :: _ => inFlow || cursor.place.line = behind.place.line
    | c :: _ => isBreak c || inFlow && (c = ',' || c = '}' || c = ']')
    | [] => true
  if goesOn then some (String.ofList chars, behind) else none

def endsPlain (inFlow : Bool) (c : Char) (s : List Char) : Bool :=
  c = ':' && (atBlank s || inFlow && atFlowMark s) || inFlow && isFlowMark c

def endsPlainAt (inFlow : Bool) (depth : Nat) (gap : Gap) (place : Place) (c : Char)
    (s : List Char) : Bool :=
  gap ≠ .none && c = '#' || gap.hasBreak && !inFlow && place.column < depth ||
    place.column = 0 && (isDocumentMark '-' (c :: s) || isDocumentMark '.' (c :: s))

def plainOnto? (inFlow : Bool) (depth : Nat) (done : List Char) (gap : Gap) :
    (skip : Nat) → Place → List Char → Option (List Char × Cursor)
  | _, place, [] => some (done.reverse, ⟨place, []⟩)
  | skip + 1, place, c :: s => plainOnto? inFlow depth done gap skip (place.after c s) s
  | 0, place, c :: s =>
      let behind := place.after c s
      if gap.hasBreak && c = '\t' && place.column < depth then
        if isIdleLine s then
          plainOnto? inFlow depth done gap (s.takeWhile fun c => !isBreak c).length behind s
        else none
      else if isSpace c || isBreak c then
        plainOnto? inFlow depth done (gap.add c s) 0 behind s
      else if endsPlain inFlow c s || endsPlainAt inFlow depth gap place c s then
        some (done.reverse, ⟨place, c :: s⟩)
      else if inFlow && c = '-' && atFlowMark s && (done = [] || gap ≠ .none) then none
      else plainOnto? inFlow depth (c :: gap.onto done) .none 0 behind s

def plain? (inFlow : Bool) (depth : Nat) (cursor : Cursor) : Option (String × Cursor) :=
  if inFlow && cursor.place.column < depth then none
  else
    (plainOnto? inFlow depth [] .none 0 cursor.place cursor.rest).map fun (chars, behind) =>
      (String.ofList chars, behind)

def inBase? (base : Nat) (s : List Char) : Option Int := do
  let (negative, s) := Decimal.cutSign s
  let digits ← s.mapM hexDigit?
  if digits ≠ [] ∧ digits.all (· < base) then
    let value := digits.foldl (fun value digit => value * base + digit) 0
    some (if negative then -(value : Int) else value)
  else none

/--
An integer: in decimal digits, with one sign or a plus sign and another one in front of them, or
in other digits behind a mark for them.
-/
def integer? (s : List Char) : Option Int :=
  let value :=
    match s with
    | '0' :: 'x' :: s => inBase? 16 s
    | '0' :: 'o' :: s => inBase? 8 s
    | '+' :: s => Decimal.readInteger? s
    | s => Decimal.readInteger? s
  value.filter fitsSigned

def boundless : List String :=
  [".inf", ".Inf", ".INF", "+.inf", "+.Inf", "+.INF", "-.inf", "-.Inf", "-.INF",
    ".nan", ".NaN", ".NAN"]

def isReal (content : String) : Bool :=
  boundless.contains content ||
    content.toList.any Char.isDigit && (Decimal.read? content.toList).isSome

def boolean? (content : String) : Option Bool :=
  if ["true", "True", "TRUE"].contains content then some true
  else if ["false", "False", "FALSE"].contains content then some false
  else none

def ofPlain (content : String) : Yaml :=
  if content = "" ∨ content = "~" ∨ content = "null" then .null
  else
    match boolean? content, integer? content.toList with
    | some value, _ => .boolean value
    | none, some value => .integer value
    | none, none => if isReal content then .real content else .text content

end WordHunt.Yaml
