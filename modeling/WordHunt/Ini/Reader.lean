import WordHunt.Ini.Basic
import WordHunt.Text.Blank
import WordHunt.Text.HexDigit
import WordHunt.Text.Scan

/-!
Reading INI documents.  A comment fills a line from its first column on.  A header stands in
brackets; an entry is a name, an equals sign or a colon, and a value on the same line.  A value
may begin with parts in quotation marks, which keep their blanks and may go over several lines.
A backslash gives the character behind it a meaning of its own everywhere but in comments, and
joins two lines where it ends the first.  In an indented line there is a header or a name that
keeps its indentation; what remains of a text behind an indentation without either is left out.
-/

namespace WordHunt.Ini

open Text

/-- What an escape behind its backslash stands for; at the end of a text it is a backslash. -/
def escape : Finder (List Char)
  | [] => some (['\\'], 0)
  | '0' :: _ => some (['\x00'], 1)
  | 'a' :: _ => some (['\x07'], 1)
  | 'b' :: _ => some (['\x08'], 1)
  | 't' :: _ => some (['\t'], 1)
  | 'r' :: _ => some (['\r'], 1)
  | 'n' :: _ => some (['\n'], 1)
  | '\n' :: _ => some ([], 1)
  | 'x' :: '+' :: s => (codeChar? 3 s).map fun c => ([c], 5)
  | 'x' :: s => (codeChar? 4 s).map fun c => ([c], 5)
  | c :: _ => some ([c], 1)

/--
The text up to a character that ends it, and what follows from that character on; `done` is the
text so far, in reverse.
-/
def textOnto? (ends : Char → Bool) (done : List Char) :
    (skip : Nat) → List Char → Option (List Char × List Char)
  | _, [] => some (done.reverse, [])
  | skip + 1, _ :: s => textOnto? ends done skip s
  | 0, c :: s =>
      if c = '\\' then
        match escape s with
        | some (chars, size) => textOnto? ends (chars.reverse ++ done) size s
        | none => none
      else if ends c then some (done.reverse, c :: s)
      else textOnto? ends (c :: done) 0 s

def textBefore? (ends : Char → Bool) (s : List Char) : Option (List Char × List Char) :=
  match textOnto? ends [] 0 s with
  | some (text, _ :: rest) => some (text, rest)
  | _ => none

def isLineEnd (c : Char) : Bool :=
  c = '\n' || c = '\r'

def isQuote (c : Char) : Bool :=
  c = '"' || c = '\''

def valueFrom? (fuel : Nat) (quoted : Option (List Char)) (s : List Char) :
    Option (List Char × List Char) :=
  match fuel, s with
  | fuel + 1, c :: s =>
      if isQuote c then do
        let (text, rest) ← textBefore? (· = c) s
        valueFrom? fuel (some (quoted.getD [] ++ text)) rest
      else do
        let (text, rest) ← textOnto? isLineEnd [] 0 (c :: s)
        match quoted with
        | some quoted => some (quoted ++ trimEnd text, rest)
        | none => some (trim text, rest)
  | _, s => some (quoted.getD [], s)

def value? (s : List Char) : Option (List Char × List Char) :=
  valueFrom? s.length none (s.dropWhile fun c => isBlank c && !isLineEnd c)

def entryOf? (name : List Char) : List Char → Option (Item × List Char)
  | [] => none
  | _ :: rest => do
      let (value, rest) ← value? rest
      if name = [] then none
      else some (.entry (String.ofList name) (String.ofList value), rest)

def endsName (c : Char) : Bool :=
  c = '=' || c = ':'

def item? : List Char → Option (Item × List Char)
  | '[' :: s => do
      let (name, rest) ← textBefore? (· = ']') s
      some (.section (String.ofList (trim name)), rest)
  | s => do
      let (name, rest) ← textOnto? endsName [] 0 s
      entryOf? (trim name) rest

def isIndent (c : Char) : Bool :=
  c = ' ' || c = '\t'

/--
The item of an indented line, with what follows, if there is one before the end of the text; an
indentation alone is left for the next line.
-/
def indentedItem? (indent : List Char) : List Char → Option (Option Item × List Char)
  | [] => some (none, [])
  | c :: s =>
      if c = '[' then (item? (c :: s)).map fun (item, rest) => (some item, rest)
      else if isLineEnd c then some (none, c :: s)
      else do
        let (name, rest) ← textOnto? endsName [] 0 (c :: s)
        if rest = [] then some (none, [])
        else
          let name := if trimEnd name = [] then [] else indent ++ trimEnd name
          (entryOf? name rest).map fun (item, rest) => (some item, rest)

inductive Place where
  | text
  | line
  | inside
  deriving DecidableEq, Repr

def isPassed (place : Place) (c : Char) : Bool :=
  if place = .text then isIndent c || isLineEnd c else isBlank c

def itemsFrom? : (fuel : Nat) → Place → List Char → Option Ini
  | _, _, [] => some []
  | 0, _, _ => none
  | fuel + 1, place, c :: s =>
      if isIndent c ∧ place ≠ .inside then do
        let (item, rest) ←
          indentedItem? ((c :: s).takeWhile isIndent) ((c :: s).dropWhile isIndent)
        let items ← itemsFrom? fuel .inside rest
        some (item.toList ++ items)
      else if isPassed place c then itemsFrom? fuel (if c = '\n' then .line else .inside) s
      else if c = ';' ∨ c = '#' then
        if place = .inside then none
        else itemsFrom? fuel .line ((s.dropWhile (· ≠ '\n')).drop 1)
      else do
        let (item, rest) ← item? (c :: s)
        let items ← itemsFrom? fuel .inside rest
        some (item :: items)

def ofChars? (s : List Char) : Option Ini :=
  itemsFrom? s.length .text s

end WordHunt.Ini
