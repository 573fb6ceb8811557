import WordHunt.Text.Scan

/-!
Texts in UTF-8.  Decoding either refuses a text with a malformed place, or puts a replacement
character there: one for each longest run of bytes that could begin a character and does not
go on as one.
-/

namespace WordHunt.Text

def decodeUtf8? (bytes : ByteArray) : Option String :=
  String.fromUTF8? bytes

/-- How many bytes follow the first byte of a character, and the range of the first of them. -/
def following? (first : Nat) : Option (Nat × Nat × Nat) :=
  if first < 0x80 then some (0, 0, 0)
  else if 0xC2 ≤ first ∧ first ≤ 0xDF then some (1, 0x80, 0xBF)
  else if first = 0xE0 then some (2, 0xA0, 0xBF)
  else if first = 0xED then some (2, 0x80, 0x9F)
  else if 0xE1 ≤ first ∧ first ≤ 0xEF then some (2, 0x80, 0xBF)
  else if first = 0xF0 then some (3, 0x90, 0xBF)
  else if first = 0xF4 then some (3, 0x80, 0x8F)
  else if 0xF1 ≤ first ∧ first ≤ 0xF3 then some (3, 0x80, 0xBF)
  else none

def continuation : (count low high : Nat) → List Nat → List Nat
  | 0, _, _, _ => []
  | _, _, _, [] => []
  | count + 1, low, high, byte :: bytes =>
      if low ≤ byte ∧ byte ≤ high then byte :: continuation count 0x80 0xBF bytes else []

def leadingBits (count first : Nat) : Nat :=
  if count = 0 then first else first % Nat.pow 2 (6 - count)

def decodeChar (first : Nat) (bytes : List Nat) : Char × Nat :=
  match following? first with
  | none => ('\uFFFD', 1)
  | some (count, low, high) =>
      let more := continuation count low high bytes
      if more.length = count then
        (Char.ofNat (more.foldl (fun code byte => code * 64 + byte % 64)
          (leadingBits count first)), count + 1)
      else ('\uFFFD', more.length + 1)

def decodeAfter : (skip : Nat) → List Nat → List Char
  | _, [] => []
  | skip + 1, _ :: bytes => decodeAfter skip bytes
  | 0, first :: bytes =>
      let (c, size) := decodeChar first bytes
      c :: decodeAfter (size - 1) bytes

def decodeLeniently (bytes : ByteArray) : String :=
  String.ofList (decodeAfter 0 (bytes.toList.map UInt8.toNat))

def dropByteOrderMark : List Char → List Char
  | '\uFEFF' :: s => s
  | s => s

end WordHunt.Text
