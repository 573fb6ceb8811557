/-!
Hexadecimal digits, whose letters may have either case, and characters given by their codes.
-/

namespace WordHunt.Text

def hexDigit? (c : Char) : Option Nat :=
  if c.isDigit then some (c.toNat - '0'.toNat)
  else if 'a' ≤ c ∧ c ≤ 'f' then some (c.toNat - 'a'.toNat + 10)
  else if 'A' ≤ c ∧ c ≤ 'F' then some (c.toNat - 'A'.toNat + 10)
  else none

def ofHexDigits (digits : List Nat) : Nat :=
  digits.foldl (fun number digit => number * 16 + digit) 0

/-- The character whose code is given by exactly `size` hexadecimal digits. -/
def codeChar? (size : Nat) (s : List Char) : Option Char := do
  let digits ← (s.take size).mapM hexDigit?
  let code := ofHexDigits digits
  if digits.length = size ∧ code.isValidChar then some (Char.ofNat code) else none

end WordHunt.Text
