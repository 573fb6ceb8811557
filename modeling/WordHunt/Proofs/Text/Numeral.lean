import WordHunt.Text.DecimalDigit
import WordHunt.Text.Numeral

/-!
# Numerals are read back

A numeral is a non-empty text of the digits `0` to `9`, its value is the number it was written
for, and no value that is read reaches the bound.
-/

namespace WordHunt.Text

theorem isDigit_iff (c : Char) : c.isDigit = true ↔ 48 ≤ c.toNat ∧ c.toNat ≤ 57 := by
  simp only [Char.isDigit, Bool.and_eq_true, decide_eq_true_eq, ge_iff_le, UInt32.le_iff_toNat_le]
  rfl

theorem numeral_ne_nil (n : Nat) : numeral n ≠ [] :=
  Nat.toDigits_ne_nil

theorem head?_numeral_ne_zero {n : Nat} (h : n ≠ 0) : (numeral n).head? ≠ some '0' := by
  rw [numeral]
  induction n using Nat.strongRecOn with
  | ind n ih =>
      by_cases hsmall : n < 10
      · simpa [Nat.toDigits_of_lt_base hsmall] using h
      · have hten : 10 ≤ n := Nat.le_of_not_lt hsmall
        have hfirst := ih (n / 10) (by omega) (by omega)
        rw [Nat.toDigits_of_base_le (by decide) hten]
        cases hdigits : Nat.toDigits 10 (n / 10) with
        | nil => exact absurd hdigits Nat.toDigits_ne_nil
        | cons c digits =>
            rw [hdigits] at hfirst
            exact hfirst

theorem isDigit_of_mem_numeral {n : Nat} {c : Char} (h : c ∈ numeral n) : c.isDigit = true := by
  rw [numeral] at h
  exact Nat.isDigit_of_mem_toDigits (by decide) (by decide) h

theorem isDecimalDigit_of_mem_numeral {n : Nat} {c : Char} (h : c ∈ numeral n) :
    isDecimalDigit c = true := by
  rw [isDecimalDigit, isDigit_of_mem_numeral h, Bool.true_or]

theorem readNumeral_eq_some_iff {bound value : Nat} {digits : List Char} :
    readNumeral bound digits = some value ↔
      (digits ≠ [] ∧ ∀ c ∈ digits, c.isDigit = true) ∧ Nat.ofDigitChars 10 digits 0 = value ∧
        value < bound := by
  simp only [readNumeral, List.all_eq_true]
  split
  · next hdigits =>
    split
    · next hbound =>
      rw [Option.some.injEq]
      exact ⟨fun h => ⟨hdigits, h, h ▸ hbound⟩, fun h => h.2.1⟩
    · next hbound =>
      exact ⟨nofun, fun h => absurd (h.2.1 ▸ h.2.2) hbound⟩
  · next hdigits =>
    exact ⟨nofun, fun h => absurd h.1 hdigits⟩

theorem readNumeral_lt {bound value : Nat} {digits : List Char}
    (h : readNumeral bound digits = some value) : value < bound :=
  (readNumeral_eq_some_iff.mp h).2.2

theorem readNumeral_numeral {bound n : Nat} (h : n < bound) :
    readNumeral bound (numeral n) = some n :=
  readNumeral_eq_some_iff.mpr
    ⟨⟨numeral_ne_nil n, fun _ => isDigit_of_mem_numeral⟩, Nat.ofDigitChars_ten_toDigits, h⟩

theorem numeral_inj {m n : Nat} : numeral m = numeral n ↔ m = n := by
  constructor
  · intro h
    have hvalue (n : Nat) : Nat.ofDigitChars 10 (numeral n) 0 = n :=
      Nat.ofDigitChars_ten_toDigits
    rw [← hvalue m, h, hvalue]
  · exact congrArg numeral

/-! ## Numerals in front of a text -/

section Leading

variable (n : Nat) {digits rest : List Char} (h : ∀ c ∈ rest.head?, c.isDigit = false)
include h

theorem takeWhile_digits_append (hdigits : ∀ c ∈ digits, c.isDigit = true) :
    (digits ++ rest).takeWhile Char.isDigit = digits := by
  rw [List.takeWhile_append_of_pos hdigits]
  cases rest with
  | nil => simp
  | cons c rest => simp [h c rfl]

theorem takeWhile_numeral_append : (numeral n ++ rest).takeWhile Char.isDigit = numeral n :=
  takeWhile_digits_append h fun _ => isDigit_of_mem_numeral

theorem dropWhile_numeral_append : (numeral n ++ rest).dropWhile Char.isDigit = rest := by
  rw [List.dropWhile_append_of_pos fun c hc => isDigit_of_mem_numeral hc]
  cases rest with
  | nil => rfl
  | cons c rest => simp [h c rfl]

end Leading

def leadingNumber? (s : List Char) : Option (Nat × List Char) :=
  let digits := s.takeWhile Char.isDigit
  if digits = [] then none
  else some (Nat.ofDigitChars 10 digits 0, s.dropWhile Char.isDigit)

theorem leadingNumber?_numeral (n : Nat) {rest : List Char}
    (h : ∀ c ∈ rest.head?, c.isDigit = false) :
    leadingNumber? (numeral n ++ rest) = some (n, rest) := by
  have hvalue : Nat.ofDigitChars 10 (numeral n) 0 = n :=
    Nat.ofDigitChars_ten_toDigits
  simp only [leadingNumber?, takeWhile_numeral_append n h, dropWhile_numeral_append n h]
  rw [if_neg (numeral_ne_nil n), hvalue]

end WordHunt.Text
