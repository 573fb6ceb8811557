import WordHunt.Decimal.Shortest
import WordHunt.Text.Numeral

/-!
Writing floating-point numbers by their shortest decimals.
-/

namespace WordHunt.Decimal

open Text

structure Layout where
  tie : Tie
  /-- A number whose first digit stands for `10 ^ e` is written out when `e` is at least this. -/
  plainFrom : Option Int
  /-- It is written out when `e` is below this. -/
  plainBelow : Option Int
  /-- What follows an integral number that is written out. -/
  integral : String
  /-- The sign of an exponent that is not negative. -/
  exponentSign : String
  nan : String
  infinity : String

def Layout.plain (form : Layout) (digits : List Char) (exponent : Int) : String :=
  if 0 ≤ exponent then
    String.ofList (digits ++ List.replicate exponent.toNat '0') ++ form.integral
  else
    let places := (-exponent).toNat
    if places < digits.length then
      String.ofList (digits.take (digits.length - places) ++
        '.' :: digits.drop (digits.length - places))
    else
      String.ofList ('0' :: '.' :: List.replicate (places - digits.length) '0' ++ digits)

def Layout.scientific (form : Layout) (digits : List Char) (lead : Int) : String :=
  let mantissa :=
    match digits with
    | first :: second :: rest => first :: '.' :: second :: rest
    | digits => digits
  String.ofList mantissa ++ "e" ++
    (if lead < 0 then "-" else form.exponentSign) ++ numeralText lead.natAbs

def Layout.write (form : Layout) (value : Float) : String :=
  if value.isNaN then form.nan
  else
    let sign := if value.toBits.toNat / Nat.pow 2 63 = 1 then "-" else ""
    if value.isInf then sign ++ form.infinity
    else
      let binary := Binary.ofFloat value
      if binary.mantissa = 0 then sign ++ form.plain ['0'] 0
      else
        let decimal := binary.shortest form.tie
        let digits := numeral decimal.digits
        let lead := (digits.length : Int) - 1 + decimal.exponent
        let large := form.plainBelow.any (· ≤ lead)
        let small := form.plainFrom.any (lead < ·)
        if large || small then sign ++ form.scientific digits lead
        else sign ++ form.plain digits decimal.exponent

end WordHunt.Decimal
