import WordHunt.Decimal.Layout
import WordHunt.Json.Basic

/-!
Writing JSON values without spaces.  Quotation marks, backslashes and control characters are
escaped; every other character stands for itself.
-/

namespace WordHunt.Json

open Text

/-- Numbers are written out between 10⁻⁵ and 10¹⁶, and are told from integers by a point. -/
def numberLayout : Decimal.Layout where
  tie := .toEven
  plainFrom := some (-5)
  plainBelow := some 16
  integral := ".0"
  exponentSign := "+"
  nan := "null"
  infinity := "null"

def hexDigitChar (value : Nat) : Char :=
  Nat.digitChar (value % 16)

def escape (c : Char) : List Char :=
  if c = '"' then ['\\', '"']
  else if c = '\\' then ['\\', '\\']
  else if c.toNat < 0x20 then
    if c = '\x08' then ['\\', 'b']
    else if c = '\x0c' then ['\\', 'f']
    else if c = '\n' then ['\\', 'n']
    else if c = '\r' then ['\\', 'r']
    else if c = '\t' then ['\\', 't']
    else ['\\', 'u', '0', '0', hexDigitChar (c.toNat / 16), hexDigitChar c.toNat]
  else [c]

def stringChars (text : String) : List Char :=
  '"' :: text.toList.flatMap escape ++ ['"']

def numberChars : Number → List Char
  | .integer value =>
      (if value < 0 then ['-'] else []) ++ numeral value.natAbs
  | .real value =>
      if value.isInf then ['n', 'u', 'l', 'l'] else (numberLayout.write value).toList

mutual

def chars : Json → List Char → List Char
  | .null, rest => 'n' :: 'u' :: 'l' :: 'l' :: rest
  | .boolean true, rest => 't' :: 'r' :: 'u' :: 'e' :: rest
  | .boolean false, rest => 'f' :: 'a' :: 'l' :: 's' :: 'e' :: rest
  | .number value, rest => numberChars value ++ rest
  | .string text, rest => stringChars text ++ rest
  | .array items, rest => '[' :: itemChars items (']' :: rest)
  | .object members, rest => '{' :: memberChars members ('}' :: rest)

def itemChars : List Json → List Char → List Char
  | [], rest => rest
  | [value], rest => chars value rest
  | value :: next :: values, rest => chars value (',' :: itemChars (next :: values) rest)

def memberChars : List (String × Json) → List Char → List Char
  | [], rest => rest
  | [(name, value)], rest => stringChars name ++ ':' :: chars value rest
  | (name, value) :: next :: members, rest =>
      stringChars name ++ ':' :: chars value (',' :: memberChars (next :: members) rest)

end

def toText (value : Json) : String :=
  String.ofList (chars value [])

end WordHunt.Json
