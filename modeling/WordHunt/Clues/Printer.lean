import WordHunt.Clues.Basic
import WordHunt.Text.Line
import WordHunt.Text.Numeral

/-!
The canonical text of clues: settled letters by position, letters that occur in alphabetical
order, the letters that do not occur on one line, each once, and last the length, which is
always given.
-/

namespace WordHunt

open Text

namespace Clues

def exactLine (position : Nat) (letter : Char) : String :=
  String.singleton letter ++ " AT " ++ numeralText (placeNumber position)

def presentLine (letter : Char) (excluded : List Nat) : String :=
  String.singleton letter ++ " IN WORD" ++
    if excluded = [] then ""
    else
      ", NOT AT " ++
        joinWith ", " (excluded.map fun position => numeralText (placeNumber position))

def absentLine (letters : List Char) : String :=
  "NO " ++ joinWith ", " (letters.map String.singleton)

def lengthLine (length : Nat) : String :=
  "LENGTH: " ++ numeralText length

def toLines (clues : Clues) : List String :=
  clues.exact.toList.map (fun (position, letter) => exactLine position letter) ++
    clues.present.toList.map (fun (letter, excluded) => presentLine letter excluded) ++
    (if clues.absent = [] then [] else [absentLine clues.absent.eraseDups]) ++
    [lengthLine clues.length]

def toText (clues : Clues) : String :=
  joinWith "\n" clues.toLines

end Clues

def Seed.toText (seed : Seed) : String :=
  String.singleton seed.letter ++ " at position " ++ numeralText (placeNumber seed.position)

end WordHunt
