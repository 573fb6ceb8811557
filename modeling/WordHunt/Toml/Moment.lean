/-!
Dates and times in TOML: a date, a time, or both, the latter with or without an offset.  A
moment is written in one way, with `T` between date and time.  Seconds may be left out, and stay
out; a fraction of a second keeps at most nine digits and ends in a zero only if it is zero.
-/

namespace WordHunt.Toml

/-- A part of a moment in its one written form, and what follows it. -/
abbrev MomentPart := Option (List Char × List Char)

def pair? (low high : Nat) : List Char → MomentPart
  | a :: b :: s =>
      let value := Nat.ofDigitChars 10 [a, b] 0
      if a.isDigit ∧ b.isDigit ∧ low ≤ value ∧ value ≤ high then some ([a, b], s) else none
  | _ => none

def isLeapYear (year : Nat) : Bool :=
  year % 4 = 0 && (year % 100 ≠ 0 || year % 400 = 0)

def daysIn (year month : Nat) : Nat :=
  if month = 2 then if isLeapYear year then 29 else 28
  else if month = 4 ∨ month = 6 ∨ month = 9 ∨ month = 11 then 30
  else 31

def date? : List Char → MomentPart
  | a :: b :: c :: d :: '-' :: s => do
      let year := [a, b, c, d]
      let (month, s) ← pair? 1 12 s
      match s with
      | '-' :: s =>
          let days := daysIn (Nat.ofDigitChars 10 year 0) (Nat.ofDigitChars 10 month 0)
          let (day, s) ← pair? 1 days s
          if year.all Char.isDigit then some (year ++ '-' :: month ++ '-' :: day, s) else none
      | _ => none
  | _ => none

def secondFraction? : List Char → MomentPart
  | '.' :: s =>
      let digits := s.takeWhile Char.isDigit
      let kept := ((digits.take 9).reverse.dropWhile (· = '0')).reverse
      if digits = [] then none
      else some ('.' :: (if kept = [] then ['0'] else kept), s.drop digits.length)
  | s => some ([], s)

def seconds? : List Char → MomentPart
  | ':' :: s => do
      let (second, s) ← pair? 0 60 s
      let (fraction, s) ← secondFraction? s
      some (':' :: second ++ fraction, s)
  | s => some ([], s)

def clock? (s : List Char) : MomentPart := do
  let (hour, s) ← pair? 0 23 s
  match s with
  | ':' :: s =>
      let (minute, s) ← pair? 0 59 s
      some (hour ++ ':' :: minute, s)
  | _ => none

def time? (s : List Char) : MomentPart := do
  let (clock, s) ← clock? s
  let (seconds, s) ← seconds? s
  some (clock ++ seconds, s)

/-- An offset from universal time, which may be missing; no offset is negative and zero. -/
def offset? : List Char → MomentPart
  | [] => some ([], [])
  | sign :: s =>
      if sign = 'Z' ∨ sign = 'z' then some (['Z'], s)
      else if sign = '+' ∨ sign = '-' then do
        let (clock, s) ← clock? s
        let sign := if clock = ['0', '0', ':', '0', '0'] then '+' else sign
        some (sign :: clock, s)
      else none

def isDateTimeMark (c : Char) : Bool :=
  c = 'T' || c = 't' || c = ' '

def moment? (s : List Char) : Option String := do
  let (chars, rest) ←
    match date? s with
    | none => time? s
    | some (date, []) => some (date, [])
    | some (date, mark :: s) =>
        if isDateTimeMark mark then do
          let (time, s) ← time? s
          let (offset, s) ← offset? s
          some (date ++ 'T' :: time ++ offset, s)
        else none
  if rest = [] then some (String.ofList chars) else none

def isDate (s : List Char) : Bool :=
  match date? s with
  | some (_, []) => true
  | _ => false

end WordHunt.Toml
