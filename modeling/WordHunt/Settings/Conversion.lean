import WordHunt.Decimal.Layout
import WordHunt.Decimal.Reading
import WordHunt.Settings.Value
import WordHunt.Text.Case
import WordHunt.Text.Numeral

/-!
What settings mean where a text, a number or a section is needed.  Numbers and truth values
have a text, and texts that spell a number have a value; lists and tables have neither.
-/

namespace WordHunt.Setting

open Text

/-- Numbers are written out in full, and integral ones like integers. -/
def realLayout : Decimal.Layout where
  tie := .up
  plainFrom := none
  plainBelow := none
  integral := ""
  exponentSign := ""
  nan := "NaN"
  infinity := "inf"

def toText? : Setting → Option String
  | .text value => some value
  | .boolean value => some (if value then "true" else "false")
  | .integer value => some (integerText value)
  | .real value => some (realLayout.write value)
  | .unset | .list _ | .table _ => none

def countOfText? (text : String) : Option Nat :=
  let small := lowerCase text
  if small = "true" ∨ small = "on" ∨ small = "yes" then some 1
  else if small = "false" ∨ small = "off" ∨ small = "no" then some 0
  else
    match text.toList with
    | '+' :: digits => readNumeral wordBound digits
    | digits => readNumeral wordBound digits

/-- The natural number that a setting gives: a float is rounded and kept within bounds. -/
def toWord? : Setting → Option Nat
  | .integer value => if 0 ≤ value ∧ value < wordBound then some value.toNat else none
  | .text value => countOfText? value
  | .boolean value => some (if value then 1 else 0)
  | .real value => some value.round.toUInt64.toNat
  | .unset | .list _ | .table _ => none

def toCount? (bound : Nat) (value : Setting) : Option Nat :=
  value.toWord?.filter (· < bound)

def optional? {α : Type} (convert : Setting → Option α) : Setting → Option (Option α)
  | .unset => some none
  | value => (convert value).map some

/--
The values of a section by their names.  A list gives the values in the order of the names that
the section knows.
-/
def entries? (names : List String) : Setting → Option (List (String × Setting))
  | .table members => some members
  | .list items => some (names.zip items)
  | _ => none

def get? {α : Type} (values : List (String × Setting)) (name : String)
    (convert : Setting → Option α) (default : α) : Option α :=
  match values.lookup name with
  | some value => convert value
  | none => some default

end WordHunt.Setting
