import WordHunt.Decimal.Reading
import WordHunt.Toml.Basic
import WordHunt.Toml.Moment
import WordHunt.Toml.Token

/-!
Values that are written without quotation marks: keywords, integers, floating-point numbers,
and dates and times.  Integers have 64 bits with a sign, and a number too large for a
floating-point number is refused.
-/

namespace WordHunt.Toml

open Decimal (cutSign isExponentMark)
open Text

/-- Removes the underscores from digits; each must stand between two of them. -/
def ungroup? (isDigit : Char → Bool) : List Char → Option (List Char)
  | [] => none
  | [c] => if isDigit c then some [c] else none
  | c :: '_' :: s => if isDigit c then (ungroup? isDigit s).map (c :: ·) else none
  | c :: s => if isDigit c then (ungroup? isDigit s).map (c :: ·) else none

def wholeDigits? (s : List Char) : Option (List Char) :=
  match ungroup? Char.isDigit s with
  | some ('0' :: _ :: _) => none
  | digits => digits

def bounded? (value : Int) : Option Toml :=
  if fitsSigned value then some (.integer value) else none

def inBase? (base : Nat) (s : List Char) : Option Toml := do
  let isDigit (c : Char) := (hexDigit? c).any (· < base)
  let digits ← ungroup? isDigit s
  let values ← digits.mapM hexDigit?
  bounded? (values.foldl (fun value digit => value * base + digit) 0 : Nat)

def integer? : List Char → Option Toml
  | '0' :: 'x' :: s => inBase? 16 s
  | '0' :: 'o' :: s => inBase? 8 s
  | '0' :: 'b' :: s => inBase? 2 s
  | s => do
      let (negative, s) := cutSign s
      let digits ← wholeDigits? s
      let value := Nat.ofDigitChars 10 digits 0
      bounded? (if negative then -(value : Int) else value)

def fraction? : List Char → Option (List Char)
  | [] => some []
  | '.' :: s => ungroup? Char.isDigit s
  | _ => none

def exponent? : List Char → Option Int
  | [] => some 0
  | _ :: s => do
      let (negative, s) := cutSign s
      let digits ← ungroup? Char.isDigit s
      let value := Nat.ofDigitChars 10 digits 0
      some (if negative then -(value : Int) else value)

def real? (s : List Char) : Option Toml :=
  let (negative, s) := cutSign s
  let signed (value : Float) : Toml := .real (if negative then -value else value)
  if s = ['i', 'n', 'f'] then some (signed Decimal.infinity)
  else if s = ['n', 'a', 'n'] then some (signed Decimal.notANumber)
  else if s.all fun c => c ≠ '.' && !isExponentMark c then none
  else do
    let mantissa := s.takeWhile fun c => !isExponentMark c
    let whole ← wholeDigits? (mantissa.takeWhile (· ≠ '.'))
    let fraction ← fraction? (mantissa.dropWhile (· ≠ '.'))
    let exponent ← exponent? (s.drop mantissa.length)
    let value := Decimal.Scaled.nearest
      ⟨Nat.ofDigitChars 10 (whole ++ fraction) 0, exponent - (fraction.length : Int)⟩
    if value.isInf then none else some (signed value)

def scalar? (s : List Char) : Option Toml :=
  if s = ['t', 'r', 'u', 'e'] then some (.boolean true)
  else if s = ['f', 'a', 'l', 's', 'e'] then some (.boolean false)
  else integer? s <|> real? s <|> (moment? s).map .moment

end WordHunt.Toml
