import WordHunt.Clues.Basic
import WordHunt.Text.Case
import WordHunt.Text.Line
import WordHunt.Text.Blank
import WordHunt.Text.Numeral

/-!
Screening words by clues.  A word is compared letter by letter, with small letters `a` to `z`
taken for capitals.  The checks run in a fixed order, and the first one that fails is the
reason for which the word is turned away: its length, then the settled letters by position,
then the letters that may not occur as they were named, then the letters that must occur, in
alphabetical order, each with the positions it may not occupy.
-/

namespace WordHunt

open Text

inductive Violation where
  | length (actual : Nat)
  | exact (position : Nat)
  | absent (letter : Char)
  | missing (letter : Char)
  | misplaced (letter : Char) (position : Nat)
  deriving DecidableEq, Repr

namespace Violation

inductive Kind where
  | absent
  | exact
  | length
  | present
  deriving DecidableEq, Repr

def Kind.all : List Kind :=
  [.absent, .exact, .length, .present]

def Kind.name : Kind → String
  | .absent => "absent"
  | .exact => "exact"
  | .length => "length"
  | .present => "present"

def kind : Violation → Kind
  | .length _ => .length
  | .exact _ => .exact
  | .absent _ => .absent
  | .missing _ | .misplaced _ _ => .present

def message : Violation → String
  | .length actual => "length " ++ numeralText actual ++ " does not match"
  | .exact position => "wrong letter at position " ++ numeralText (placeNumber position)
  | .absent letter => "contains excluded letter " ++ String.singleton letter
  | .missing letter => "missing required letter " ++ String.singleton letter
  | .misplaced letter position =>
      String.singleton letter ++ " may not be at position " ++ numeralText (placeNumber position)

end Violation

namespace Clues

def exactViolation? (clues : Clues) (letters : List Char) : Option Violation :=
  clues.exact.toList.findSome? fun (position, letter) =>
    if letters[position]? = some letter then none else some (.exact position)

def absentViolation? (clues : Clues) (letters : List Char) : Option Violation :=
  (clues.absent.find? (letters.contains ·)).map .absent

/-- The first required letter that a word lacks or has where it may not be. -/
def presentViolation? (clues : Clues) (letters : List Char) : Option Violation :=
  clues.present.toList.findSome? fun (letter, excluded) =>
    if letters.contains letter then
      (excluded.find? fun position => letters[position]? = some letter).map (.misplaced letter)
    else some (.missing letter)

def violation? (clues : Clues) (word : String) : Option Violation :=
  let letters := word.toList.map Char.toUpper
  if letters.length ≠ clues.length then some (.length letters.length)
  else
    clues.exactViolation? letters <|> clues.absentViolation? letters <|>
      clues.presentViolation? letters

def fits (clues : Clues) (word : String) : Bool :=
  (clues.violation? word).isNone

end Clues

structure Screening where
  accepted : List String
  violations : List Violation
  deriving DecidableEq, Repr

namespace Screening

def count (screening : Screening) (kind : Violation.Kind) : Nat :=
  screening.violations.countP (·.kind = kind)

def tally (screening : Screening) : List (Violation.Kind × Nat) :=
  (Violation.Kind.all.map fun kind => (kind, screening.count kind)).filter (·.2 ≠ 0)

def rejected (screening : Screening) : Nat :=
  screening.violations.length

end Screening

def Clues.screen (clues : Clues) (words : List String) : Screening where
  accepted := (words.filter clues.fits).map upperCase
  violations := words.filterMap clues.violation?

/-- A word list: one word a line, trimmed and in upper case, blank lines passed over. -/
def wordList (text : String) : List String :=
  (((lines text.toList).map trim).filter (· ≠ [])).map fun line => String.ofList (upper line)

end WordHunt
