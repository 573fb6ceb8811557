import WordHunt.Text.Blank
import WordHunt.Text.DecimalDigit
import WordHunt.Text.Letter
import WordHunt.Text.Numeral

/-!
The four forms of a clue line, which is read trimmed and in upper case:

    O AT 3                      the letter at a position
    NO S, T, R, E               letters that do not occur
    A IN WORD, NOT AT 1, 2      a letter that occurs, with positions it does not occupy
    LENGTH: 5                   the length of the word

A line can have one of these forms and still say nothing: a number too large for a word of
memory, or written with digits other than `0` to `9`, has no value.
-/

namespace WordHunt

open Text

/-- What one line says.  A number that has no value is left out. -/
inductive ClueLine where
  | exact (letter : Char) (place : Option Nat)
  | absent (letters : List Char)
  | present (letter : Char) (excluded : List Nat)
  | length (value : Option Nat)
  deriving DecidableEq, Repr

namespace ClueLine

def after? (word s : List Char) : Option (List Char) :=
  if word.isPrefixOf s then some (s.drop word.length) else none

def afterBlanks? : List Char → Option (List Char)
  | [] => none
  | c :: s => if isBlank c then some (trimStart s) else none

def letter? : List Char → Option (Char × List Char)
  | [] => none
  | c :: s => if isCapital c then (afterBlanks? s).map (c, ·) else none

def digits? (s : List Char) : Option (List Char) :=
  if s ≠ [] ∧ s.all isDecimalDigit then some s else none

def exactForm? (s : List Char) : Option ClueLine := do
  let (letter, s) ← letter? s
  let s ← after? ['A', 'T'] s
  let s ← afterBlanks? s
  let digits ← digits? s
  some (.exact letter (readNumeral wordBound digits))

/-- The letters that stand alone between commas; any other field is passed over. -/
def listedLetters (s : List Char) : List Char :=
  (s.splitOn ',').filterMap fun field =>
    match trim field with
    | [c] => if isCapital c then some c else none
    | _ => none

def absentForm? (s : List Char) : Option ClueLine := do
  let s ← after? ['N', 'O'] s
  let s ← afterBlanks? s
  if s = [] then none
  some (.absent (listedLetters s))

/-- The positions, counted from zero, whose numbers stand between commas. -/
def listedPositions (s : List Char) : List Nat :=
  (s.splitOn ',').filterMap fun field =>
    match readNumeral wordBound (trim field) with
    | some (position + 1) => some position
    | _ => none

def isListed (c : Char) : Bool :=
  isDecimalDigit c || isBlank c || c = ','

def excluded? (s : List Char) : Option (List Nat) :=
  if s = [] then some []
  else do
    let s := trimStart s
    let s := trimStart ((after? [','] s).getD s)
    let s ← after? ['N', 'O', 'T'] s
    let s ← afterBlanks? s
    let s ← after? ['A', 'T'] s
    let s ← afterBlanks? s
    if s.all isListed then some (listedPositions s) else none

def presentForm? (s : List Char) : Option ClueLine := do
  let (letter, s) ← letter? s
  let s ← after? ['I', 'N'] s
  let s ← afterBlanks? s
  let s ← after? ['W', 'O', 'R', 'D'] s
  let excluded ← excluded? s
  some (.present letter excluded)

def lengthForm? (s : List Char) : Option ClueLine := do
  let s ← after? ['L', 'E', 'N', 'G', 'T', 'H'] s
  let s ← after? [':'] (trimStart s)
  let digits ← digits? (trimStart s)
  some (.length (readNumeral wordBound digits))

/-- Reads a line that is trimmed and in upper case; any other line says nothing. -/
def read? (s : List Char) : Option ClueLine :=
  exactForm? s <|> absentForm? s <|> presentForm? s <|> lengthForm? s

end ClueLine

end WordHunt
