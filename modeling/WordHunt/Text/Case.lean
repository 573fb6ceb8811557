import WordHunt.Text.Case.Context
import WordHunt.Text.Case.Lower
import WordHunt.Text.Case.Upper

/-!
Upper and lower case of whole texts, following the full mappings of Unicode: a character may
become several, and a capital sigma at the end of a word takes its final shape.
-/

namespace WordHunt.Text

def upperChar (c : Char) : List Char :=
  if c.toNat < 0x80 then [c.toUpper]
  else
    match upperExpansions.lookup c.toNat with
    | some codes => codes.map Char.ofNat
    | none => [shiftCase upperShifts c]

def upper (s : List Char) : List Char :=
  s.flatMap upperChar

def upperCase (text : String) : String :=
  String.ofList (upper text.toList)

def lowerChar (c : Char) : List Char :=
  if c.toNat < 0x80 then [c.toLower]
  else if c = 'İ' then ['i', '\u0307']
  else [shiftCase lowerShifts c]

def meetsCased (s : List Char) : Bool :=
  (s.dropWhile isCaseIgnorable).head?.any isCased

/-- The lower case of a capital sigma: final after a cased neighbour and before none. -/
def lowerSigma (before after : List Char) : Char :=
  if meetsCased before && !meetsCased after then 'ς' else 'σ'

def lowerAfter (before : List Char) : List Char → List Char
  | [] => []
  | c :: after =>
      (if c = 'Σ' then [lowerSigma before after] else lowerChar c) ++
        lowerAfter (c :: before) after

def lower (s : List Char) : List Char :=
  lowerAfter [] s

def lowerCase (text : String) : String :=
  String.ofList (lower text.toList)

end WordHunt.Text
