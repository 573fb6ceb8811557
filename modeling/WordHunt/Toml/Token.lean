import WordHunt.Text.HexDigit
import WordHunt.Text.Scan

/-!
The tokens of a TOML document.  Strings are decoded here; names, numbers, dates and keywords
stay bare runs of characters, because only their place in the document tells them apart.
Comments count as blank space.  A line ends at a line feed, with or without a carriage return
before it; a string that goes over several lines keeps their ends as they are.  A carriage return
anywhere else is refused.
-/

namespace WordHunt.Toml

open Text

inductive Token where
  /-- Characters without a meaning of their own: a name, or a part of a number or a date. -/
  | bare (chars : List Char)
  /-- A decoded string; one in three quotation marks may go over several lines. -/
  | text (content : List Char) (spread : Bool)
  | dot
  | equals
  | comma
  | openBracket
  | closeBracket
  | openBrace
  | closeBrace
  /-- Blank space within a line, and whether it is just one space. -/
  | space (single : Bool)
  | newline
  deriving DecidableEq, Repr

def lineEndSize : List Char → Nat
  | '\n' :: _ => 1
  | '\r' :: '\n' :: _ => 2
  | _ => 0

def isSpace (c : Char) : Bool :=
  c = ' ' || c = '\t'

/-- Whether a character may stand in comments and in strings. -/
def isProper (c : Char) : Bool :=
  c = '\t' || (' ' ≤ c && c ≠ '\x7f')

def isBare (c : Char) : Bool :=
  !(isSpace c || c = '\n' || c = '\r' || c = '#' || c = '.' || c = ',' || c = '=' || c = '[' ||
    c = ']' || c = '{' || c = '}' || c = '"' || c = '\'')

def escape : Finder Char
  | 'b' :: _ => some ('\x08', 1)
  | 't' :: _ => some ('\t', 1)
  | 'n' :: _ => some ('\n', 1)
  | 'f' :: _ => some ('\x0c', 1)
  | 'r' :: _ => some ('\r', 1)
  | 'e' :: _ => some ('\x1b', 1)
  | '"' :: _ => some ('"', 1)
  | '\\' :: _ => some ('\\', 1)
  | 'x' :: s => (codeChar? 2 s).map (·, 3)
  | 'u' :: s => (codeChar? 4 s).map (·, 5)
  | 'U' :: s => (codeChar? 8 s).map (·, 9)
  | _ => none

def blankSize : List Char → Nat
  | '\r' :: '\n' :: s => blankSize s + 2
  | c :: s => if isSpace c || c = '\n' then blankSize s + 1 else 0
  | [] => 0

def lineBreak? (s : List Char) : Option Nat :=
  if lineEndSize (s.dropWhile isSpace) = 0 then none else some (blankSize s)

def literalUnit (spread : Bool) : Finder (List Char)
  | [] => none
  | c :: s =>
      let size := lineEndSize (c :: s)
      if spread && size ≠ 0 then some ((c :: s).take size, size)
      else if isProper c then some ([c], 1)
      else none

def basicUnit (spread : Bool) : Finder (List Char)
  | '\\' :: s =>
      match lineBreak? s with
      | some size => if spread then some ([], size + 1) else none
      | none => (escape s).map fun (c, size) => ([c], size + 1)
  | s => literalUnit spread s

/--
The end of a string, with the quotation marks that still belong to it: three close a string
that began with three, and up to two more may stand in front of them.
-/
def stringEnd (quote : Char) (spread : Bool) : Finder (List Char) := fun s =>
  let quotes := (s.takeWhile (· = quote)).length
  if spread then
    if quotes < 3 then none
    else some (List.replicate (min quotes 5 - 3) quote, min quotes 5)
  else if quotes = 0 then none
  else some ([], 1)

def stringBody (unit ending : Finder (List Char)) (done : List Char) (size : Nat) :
    (skip : Nat) → List Char → Option (List Char × Nat)
  | _, [] => none
  | skip + 1, _ :: s => stringBody unit ending done size skip s
  | 0, c :: s =>
      match ending (c :: s) with
      | some (chars, length) => some (done.reverse ++ chars, size + length)
      | none =>
          match unit (c :: s) with
          | some (chars, length) =>
              stringBody unit ending (chars.reverse ++ done) (size + length) (length - 1) s
          | none => none

def unit (quote : Char) (spread : Bool) : Finder (List Char) :=
  if quote = '"' then basicUnit spread else literalUnit spread

def string (quote : Char) (s : List Char) : Option (Token × Nat) :=
  let (spread, size) :=
    if [quote, quote].isPrefixOf s then (true, 3 + lineEndSize (s.drop 2)) else (false, 1)
  (stringBody (unit quote spread) (stringEnd quote spread) [] size 0 (s.drop (size - 1))).map
    fun (content, size) => (.text content spread, size)

def comment (s : List Char) : Option (Token × Nat) :=
  let size := (s.takeWhile isProper).length
  let rest := s.drop size
  if rest = [] ∨ lineEndSize rest ≠ 0 then some (.space false, size) else none

def token : Finder Token
  | [] => none
  | '\n' :: _ => some (.newline, 1)
  | '\r' :: '\n' :: _ => some (.newline, 2)
  | '\r' :: _ => none
  | '.' :: _ => some (.dot, 1)
  | '=' :: _ => some (.equals, 1)
  | ',' :: _ => some (.comma, 1)
  | '[' :: _ => some (.openBracket, 1)
  | ']' :: _ => some (.closeBracket, 1)
  | '{' :: _ => some (.openBrace, 1)
  | '}' :: _ => some (.closeBrace, 1)
  | '#' :: s => comment ('#' :: s)
  | '"' :: s => string '"' s
  | '\'' :: s => string '\'' s
  | c :: s =>
      if isSpace c then
        let blanks := (c :: s).takeWhile isSpace
        some (.space (blanks = [' ']), blanks.length)
      else
        let chars := (c :: s).takeWhile isBare
        some (.bare chars, chars.length)

def tokens? (s : List Char) : Option (List Token) :=
  (scan token s).mapM fun
    | .plain _ => none
    | .found token => some token

end WordHunt.Toml
