import WordHunt.Text.DecimalDigit
import WordHunt.Text.Mark
import WordHunt.Text.WordChar

/-!
The characters of names.  Letters are what is left of the word characters without marks, digits,
connectors, joiners and the letters in circles and squares, which count as symbols.  Identifiers
are names as Unicode recommends them: they stay names when compatible characters are replaced.
-/

namespace WordHunt.Text

/-- Connector punctuation (general category Pc), the low line among it. -/
def isConnector (c : Char) : Bool :=
  inRanges [(0x5F, 0x5F), (0x203F, 0x2040), (0x2054, 0x2054), (0xFE33, 0xFE34), (0xFE4D, 0xFE4F),
    (0xFF3F, 0xFF3F)] c.toNat

def isJoiner (c : Char) : Bool :=
  c = '\u200C' || c = '\u200D'

def isFramedLetter (c : Char) : Bool :=
  inRanges [(0x24B6, 0x24E9), (0x1F130, 0x1F149), (0x1F150, 0x1F169), (0x1F170, 0x1F189)] c.toNat

/-- Letters, and numbers that are written as letters (general categories L and Nl). -/
def isLetter (c : Char) : Bool :=
  isWordChar c &&
    !(isDecimalDigit c || isConnector c || isMark c || isJoiner c || isFramedLetter c)

/-- Letters that begin no identifier, as they are compatible with something that begins none. -/
def nonStartRanges : List CodeRange :=
  [(0x37A, 0x37A), (0xE33, 0xE33), (0xEB3, 0xEB3), (0x2E2F, 0x2E2F), (0xFC5E, 0xFC63),
   (0xFDFA, 0xFDFB), (0xFE70, 0xFE70), (0xFE72, 0xFE72), (0xFE74, 0xFE74), (0xFE76, 0xFE76),
   (0xFE78, 0xFE78), (0xFE7A, 0xFE7A), (0xFE7C, 0xFE7C), (0xFE7E, 0xFE7E), (0xFF9E, 0xFF9F)]

def nonStartPartRanges : List CodeRange :=
  [(0xE33, 0xE33), (0xEB3, 0xEB3), (0xFF9E, 0xFF9F)]

def extraStartRanges : List CodeRange :=
  [(0x1885, 0x1886), (0x2118, 0x2118), (0x212E, 0x212E)]

def extraPartRanges : List CodeRange :=
  [(0xB7, 0xB7), (0x387, 0x387), (0x1369, 0x1371), (0x19DA, 0x19DA), (0x200C, 0x200D),
   (0x30FB, 0x30FB), (0xFF65, 0xFF65)]

def isIdentifierStart (c : Char) : Bool :=
  isLetter c && !inRanges nonStartRanges c.toNat || inRanges extraStartRanges c.toNat

def isIdentifierPart (c : Char) : Bool :=
  isIdentifierStart c || isDecimalDigit c || isConnector c || isMark c && !isEnclosingMark c ||
    inRanges nonStartPartRanges c.toNat || inRanges extraPartRanges c.toNat

end WordHunt.Text
