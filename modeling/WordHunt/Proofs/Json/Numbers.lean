import WordHunt.Json.Reader
import WordHunt.Json.Writer
import WordHunt.Proofs.Text.Numeral

/-!
# Numbers are read back

What is written for a number is one token, in front of whatever may follow a value: a numeral with
its parts, or `null` for what is no finite number.  An integer that fits a word is the value of its
numeral.
-/

namespace WordHunt.Json

open Text Decimal

def Closes (rest : List Char) : Prop :=
  ∀ c ∈ rest.head?, c = ',' ∨ c = ']' ∨ c = '}'

theorem closes_nil : Closes [] := by
  rintro _ ⟨⟩

theorem closes_cons {c : Char} (h : c = ',' ∨ c = ']' ∨ c = '}') (rest : List Char) :
    Closes (c :: rest) := by
  rintro _ ⟨⟩
  exact h

theorem Closes.isDigit_eq_false {rest : List Char} (h : Closes rest) :
    ∀ c ∈ rest.head?, c.isDigit = false := by
  intro c hc
  rcases h c hc with rfl | rfl | rfl <;> decide

/-! ## Numerals -/

namespace Numeral

structure IsProper (numeral : Numeral) : Prop where
  whole : numeral.whole = ['0'] ∨
    numeral.whole ≠ [] ∧ numeral.whole.head? ≠ some '0' ∧
      ∀ c ∈ numeral.whole, c.isDigit = true
  fraction : ∀ c ∈ numeral.fraction, c.isDigit = true
  exponent : ∀ negative digits, numeral.exponent = some (negative, digits) →
    digits ≠ [] ∧ ∀ c ∈ digits, c.isDigit = true

def signChars (negative : Bool) : List Char :=
  if negative then ['-'] else []

def fractionChars (digits : List Char) : List Char :=
  if digits = [] then [] else '.' :: digits

def exponentChars : Option (Bool × List Char) → List Char
  | none => []
  | some (negative, digits) => 'e' :: (if negative then '-' else '+') :: digits

def chars (numeral : Numeral) : List Char :=
  signChars numeral.negative ++ (numeral.whole ++
    (fractionChars numeral.fraction ++ exponentChars numeral.exponent))

variable {numeral : Numeral} {rest : List Char}

theorem isDigit_head?_exponent (exponent : Option (Bool × List Char)) (h : Closes rest) :
    ∀ c ∈ (exponentChars exponent ++ rest).head?, c.isDigit = false ∧ c ≠ '.' := by
  intro c hc
  cases exponent with
  | none => rcases h c hc with rfl | rfl | rfl <;> decide
  | some part =>
      obtain rfl : 'e' = c := Option.some.inj hc
      decide

theorem isDigit_head?_fraction (numeral : Numeral) (h : Closes rest) :
    ∀ c ∈ (fractionChars numeral.fraction ++ (exponentChars numeral.exponent ++ rest)).head?,
      c.isDigit = false := by
  intro c hc
  rw [fractionChars] at hc
  split at hc
  · exact (isDigit_head?_exponent numeral.exponent h c hc).1
  · obtain rfl : '.' = c := Option.some.inj hc
    decide

theorem IsProper.wholeDigits_append (hproper : numeral.IsProper)
    (hrest : ∀ c ∈ rest.head?, c.isDigit = false) :
    wholeDigits (numeral.whole ++ rest) = numeral.whole := by
  rcases hproper.whole with hzero | ⟨hne, hhead, hdigits⟩
  · rw [hzero]
    rfl
  · rw [wholeDigits]
    · exact takeWhile_digits_append hrest hdigits
    · intro tail hcons
      obtain ⟨c, whole, hwhole⟩ := List.exists_cons_of_ne_nil hne
      rw [hwhole, List.cons_append] at hcons
      rw [hwhole] at hhead
      exact hhead (congrArg some (List.cons.inj hcons).1)

theorem fractionDigits_append {digits : List Char} (hdigits : ∀ c ∈ digits, c.isDigit = true)
    (hrest : ∀ c ∈ rest.head?, c.isDigit = false ∧ c ≠ '.') :
    fractionDigits (fractionChars digits ++ rest) = digits := by
  rw [fractionChars]
  split
  · next hnone =>
    rw [hnone, List.nil_append]
    unfold fractionDigits
    split
    · exact absurd rfl (hrest '.' rfl).2
    · rfl
  · exact takeWhile_digits_append (fun c hc => (hrest c hc).1) hdigits

theorem exponentPart?_none (h : Closes rest) : exponentPart? rest = none := by
  cases rest with
  | nil => rfl
  | cons c rest =>
      have hmark : isExponentMark c = false := by
        rcases h c rfl with rfl | rfl | rfl <;> decide
      simp [exponentPart?, hmark]

theorem exponentPart?_some {digits : List Char} (negative : Bool) (hne : digits ≠ [])
    (hdigits : ∀ c ∈ digits, c.isDigit = true) (h : Closes rest) :
    exponentPart? (exponentChars (some (negative, digits)) ++ rest) =
      some ((negative, digits), digits.length + 2) := by
  have htake := takeWhile_digits_append h.isDigit_eq_false hdigits
  obtain ⟨c, more, rfl⟩ := List.exists_cons_of_ne_nil hne
  cases negative <;>
    simp only [exponentChars, exponentPart?, isExponentMark, List.cons_append] at htake ⊢ <;>
    simp [htake] <;> omega

theorem drop_fractionChars (digits rest : List Char) :
    (fractionChars digits ++ rest).drop ((if digits = [] then 0 else 1) + digits.length) = rest := by
  rw [fractionChars]
  split
  · next hnone => simp [hnone]
  · simp [Nat.add_comm 1]

theorem length_fractionChars (digits : List Char) :
    (fractionChars digits).length = (if digits = [] then 0 else 1) + digits.length := by
  rw [fractionChars]
  split
  · next hnone => simp [hnone]
  · simp [Nat.add_comm 1]

theorem IsProper.whole_ne_nil (hproper : numeral.IsProper) : numeral.whole ≠ [] := by
  rcases hproper.whole with hzero | ⟨hne, -, -⟩
  · simp [hzero]
  · exact hne

theorem IsProper.unsignedNumber_append (hproper : numeral.IsProper) (h : Closes rest)
    (negative : Bool) :
    unsignedNumber negative (numeral.whole ++ (fractionChars numeral.fraction ++
        (exponentChars numeral.exponent ++ rest))) =
      some (.number { numeral with negative := negative },
        numeral.whole.length + (fractionChars numeral.fraction).length +
          (exponentChars numeral.exponent).length) := by
  have hwhole := hproper.wholeDigits_append (isDigit_head?_fraction numeral h)
  have hfraction := fractionDigits_append hproper.fraction
    (isDigit_head?_exponent numeral.exponent h)
  obtain ⟨c, more, hcons⟩ := List.exists_cons_of_ne_nil hproper.whole_ne_nil
  rw [unsignedNumber, hwhole]
  simp only [hcons]
  rw [← hcons, List.drop_left, hfraction, drop_fractionChars, length_fractionChars]
  cases hexponent : numeral.exponent with
  | none =>
      rw [exponentChars, List.nil_append, exponentPart?_none h]
      simp [Nat.add_assoc]
  | some part =>
      obtain ⟨negative, digits⟩ := part
      obtain ⟨hne, hdigits⟩ := hproper.exponent negative digits hexponent
      rw [exponentPart?_some negative hne hdigits h]
      simp [exponentChars, Nat.add_assoc]

theorem token_of_isDigit {c : Char} (hc : c.isDigit = true) (s : List Char) :
    token (c :: s) = unsignedNumber false (c :: s) := by
  rw [token, if_pos hc]
  all_goals
    rintro rfl
    exact absurd hc (by decide)

theorem IsProper.token_chars (hproper : numeral.IsProper) (h : Closes rest) :
    token (numeral.chars ++ rest) = some (.number numeral, numeral.chars.length) := by
  obtain ⟨c, more, hcons⟩ := List.exists_cons_of_ne_nil hproper.whole_ne_nil
  have hc : c.isDigit = true := by
    rcases hproper.whole with hzero | ⟨-, -, hdigits⟩
    · rw [hzero] at hcons
      rw [← (List.cons.inj hcons).1]
      decide
    · exact hdigits c (hcons ▸ List.mem_cons_self)
  have hread := hproper.unsignedNumber_append h numeral.negative
  simp only [chars, List.append_assoc, List.length_append]
  cases hsign : numeral.negative with
  | false =>
      rw [hsign] at hread
      have htoken := token_of_isDigit hc (more ++ (fractionChars numeral.fraction ++
        (exponentChars numeral.exponent ++ rest)))
      rw [← List.cons_append, ← hcons, hread] at htoken
      rw [signChars, if_neg (by decide), List.nil_append, htoken, ← hsign]
      simp [Nat.add_assoc]
  | true =>
      rw [hsign] at hread
      rw [signChars, if_pos rfl, List.singleton_append, token, hread, ← hsign]
      simp [Nat.add_comm, Nat.add_left_comm]

end Numeral

/-! ## The digits of real numbers -/

theorem digits_strip_ne_zero (limit : Nat) {decimal : Scaled} (h : decimal.digits ≠ 0) :
    (decimal.strip limit).digits ≠ 0 := by
  induction limit generalizing decimal with
  | zero => exact h
  | succ limit ih =>
      rw [Scaled.strip]
      split
      · next hdivides =>
        exact ih (by dsimp only; omega)
      · exact h

theorem digits_exactly_ne_zero {value : Binary} (h : value.mantissa ≠ 0) :
    value.exactly.digits ≠ 0 := by
  have hpow (base exponent : Nat) (hbase : base ≠ 0) : Nat.pow base exponent ≠ 0 :=
    Nat.pos_iff_ne_zero.mp (Nat.pow_pos (Nat.pos_of_ne_zero hbase))
  exact Nat.mul_ne_zero (Nat.mul_ne_zero h (hpow 2 _ (by decide))) (hpow 5 _ (by decide))

theorem digits_shortest_ne_zero (tie : Tie) {value : Binary} (h : value.mantissa ≠ 0) :
    (value.shortest tie).digits ≠ 0 := by
  rw [Binary.shortest]
  apply digits_strip_ne_zero
  cases hfound : (List.range 24).findSome? _ with
  | none => exact digits_exactly_ne_zero h
  | some decimal =>
      obtain ⟨step, -, hstep⟩ := List.exists_of_findSome?_eq_some hfound
      dsimp only at hstep
      split at hstep
      · split at hstep
        · contradiction
        · next hne =>
          rwa [← Option.some.inj hstep]
      · contradiction

/-! ## Real numbers -/

def IsNumberText (s : List Char) : Prop :=
  s = ['n', 'u', 'l', 'l'] ∨ ∃ numeral : Numeral, numeral.IsProper ∧ s = numeral.chars

section Layout

open Numeral

variable {digits : List Char} (negative : Bool) (exponent : Int)

theorem isProper_singleton {first : Char} (hfirst : first.isDigit = true) :
    [first] = ['0'] ∨ [first] ≠ [] ∧ [first].head? ≠ some '0' ∧ ∀ c ∈ [first], c.isDigit = true := by
  by_cases hzero : first = '0'
  · exact .inl (by rw [hzero])
  · exact .inr ⟨by simp, by simpa using hzero, by simpa using hfirst⟩

theorem isNumberText_scientific (hne : digits ≠ []) (hdigits : ∀ c ∈ digits, c.isDigit = true) :
    IsNumberText (signChars negative ++ (numberLayout.scientific digits exponent).toList) := by
  obtain ⟨first, more, rfl⟩ := List.exists_cons_of_ne_nil hne
  obtain ⟨hfirst, hmore⟩ := List.forall_mem_cons.mp hdigits
  refine .inr ⟨⟨negative, [first], more, some (exponent < 0, numeral exponent.natAbs)⟩, ?_, ?_⟩
  · refine ⟨isProper_singleton hfirst, hmore, ?_⟩
    rintro _ _ ⟨⟩
    exact ⟨numeral_ne_nil _, fun _ => isDigit_of_mem_numeral⟩
  · have hsign : (if exponent < 0 then "-" else numberLayout.exponentSign).toList =
        [if exponent < 0 then '-' else '+'] := by
      split <;> rfl
    cases more <;>
      simp [Numeral.chars, Layout.scientific, fractionChars, exponentChars, numeralText, hsign]

theorem isNumberText_point {whole fraction : List Char}
    (hwhole : whole = ['0'] ∨ whole ≠ [] ∧ whole.head? ≠ some '0' ∧ ∀ c ∈ whole, c.isDigit = true)
    (hne : fraction ≠ []) (hfraction : ∀ c ∈ fraction, c.isDigit = true) :
    IsNumberText (signChars negative ++ (whole ++ '.' :: fraction)) := by
  have hpoint : fractionChars fraction = '.' :: fraction := if_neg hne
  refine .inr ⟨⟨negative, whole, fraction, none⟩, ⟨hwhole, hfraction, nofun⟩, ?_⟩
  simp [Numeral.chars, hpoint, exponentChars]

theorem isNumberText_plain (hne : digits ≠ []) (hdigits : ∀ c ∈ digits, c.isDigit = true)
    (hzero : digits.head? ≠ some '0' ∨ digits = ['0'] ∧ exponent = 0) :
    IsNumberText (signChars negative ++ (numberLayout.plain digits exponent).toList) := by
  have hzeros (count : Nat) : ∀ c ∈ List.replicate count '0', c.isDigit = true := by
    intro c hc
    rw [List.eq_of_mem_replicate hc]
    decide
  rw [Layout.plain]
  split
  · have hwhole : digits ++ List.replicate exponent.toNat '0' = ['0'] ∨
        digits ++ List.replicate exponent.toNat '0' ≠ [] ∧
          (digits ++ List.replicate exponent.toNat '0').head? ≠ some '0' ∧
          ∀ c ∈ digits ++ List.replicate exponent.toNat '0', c.isDigit = true := by
      rcases hzero with hhead | ⟨rfl, rfl⟩
      · refine .inr ⟨by simp [hne], ?_, List.forall_mem_append.mpr ⟨hdigits, hzeros _⟩⟩
        obtain ⟨first, more, rfl⟩ := List.exists_cons_of_ne_nil hne
        exact hhead
      · exact .inl rfl
    rw [String.toList_append, String.toList_ofList]
    exact isNumberText_point negative hwhole (List.cons_ne_nil _ _) (hzeros 1)
  · next hexponent =>
    dsimp only
    generalize hplaces : (-exponent).toNat = places
    have hpos : 0 < places := by omega
    split
    · -- The point stands among the digits, with some of them on either side.
      have hhead : digits.head? ≠ some '0' := by
        rcases hzero with hhead | ⟨rfl, rfl⟩
        · exact hhead
        · exact absurd (Int.le_refl 0) hexponent
      have hwhole : digits.take (digits.length - places) ≠ [] ∧
          (digits.take (digits.length - places)).head? ≠ some '0' := by
        constructor
        · rw [Ne, List.take_eq_nil_iff, not_or]
          exact ⟨by omega, hne⟩
        · rw [List.head?_take, if_neg (by omega)]
          exact hhead
      have hfraction : digits.drop (digits.length - places) ≠ [] := by
        rw [Ne, List.drop_eq_nil_iff]
        omega
      rw [String.toList_ofList]
      exact isNumberText_point negative
        (.inr ⟨hwhole.1, hwhole.2, fun c hc => hdigits c (List.mem_of_mem_take hc)⟩) hfraction
        fun c hc => hdigits c (List.mem_of_mem_drop hc)
    · rw [String.toList_ofList]
      exact isNumberText_point negative (.inl rfl) (by simp [hne])
        (List.forall_mem_append.mpr ⟨hzeros _, hdigits⟩)

end Layout

theorem toList_sign (p : Prop) [Decidable p] :
    (if p then "-" else "").toList = Numeral.signChars (decide p) := by
  by_cases h : p <;> simp [h, Numeral.signChars]

def integerNumeral (value : Int) : Numeral :=
  ⟨value < 0, numeral value.natAbs, [], none⟩

theorem isProper_integerNumeral (value : Int) : (integerNumeral value).IsProper := by
  refine ⟨?_, nofun, nofun⟩
  by_cases hzero : value.natAbs = 0
  · rw [integerNumeral, hzero]
    exact .inl rfl
  · exact .inr ⟨numeral_ne_nil _, head?_numeral_ne_zero hzero, fun _ => isDigit_of_mem_numeral⟩

theorem numberChars_integer (value : Int) :
    numberChars (.integer value) = (integerNumeral value).chars := by
  simp [numberChars, integerNumeral, Numeral.chars, Numeral.signChars, Numeral.fractionChars,
    Numeral.exponentChars]

theorem isNumberText_real (value : Float) : IsNumberText (numberChars (.real value)) := by
  rw [numberChars]
  split
  · exact .inl rfl
  · next hfinite =>
    rw [Layout.write]
    split
    · exact .inl rfl
    · dsimp only
      split
      · rw [String.toList_append, toList_sign]
        exact isNumberText_plain _ 0 (List.cons_ne_nil _ _) (List.forall_mem_singleton.mpr rfl)
          (.inr ⟨rfl, rfl⟩)
      · next hmantissa =>
        have hdigits := digits_shortest_ne_zero numberLayout.tie hmantissa
        generalize (Binary.ofFloat value).shortest numberLayout.tie = decimal at hdigits ⊢
        split
        · rw [String.toList_append, toList_sign]
          exact isNumberText_scientific _ _ (numeral_ne_nil _) fun _ => isDigit_of_mem_numeral
        · rw [String.toList_append, toList_sign]
          exact isNumberText_plain _ _ (numeral_ne_nil _) (fun _ => isDigit_of_mem_numeral)
            (.inl (head?_numeral_ne_zero hdigits))

/-! ## Tokens of numbers -/

theorem exists_token_numberChars (number : Number) :
    ∃ read, (read = .null ∨ ∃ numeral, read = .number numeral) ∧
      ∀ rest, Closes rest →
        token (numberChars number ++ rest) = some (read, (numberChars number).length) := by
  have htext : IsNumberText (numberChars number) := by
    cases number with
    | integer value => exact .inr ⟨_, isProper_integerNumeral value, numberChars_integer value⟩
    | real value => exact isNumberText_real value
  rcases htext with hnull | ⟨numeral, hproper, hchars⟩
  · rw [hnull]
    exact ⟨.null, .inl rfl, fun _ _ => rfl⟩
  · rw [hchars]
    exact ⟨.number numeral, .inr ⟨numeral, rfl⟩, fun _ => hproper.token_chars⟩

theorem numberChars_ne_nil (number : Number) : numberChars number ≠ [] := by
  obtain ⟨read, -, hread⟩ := exists_token_numberChars number
  intro hnone
  have htoken := hread [] closes_nil
  rw [hnone] at htoken
  cases htoken

/-! ## The values of integers -/

theorem absorb_eq {digits : List Char} {significand : Nat}
    (h : Nat.ofDigitChars 10 digits significand < wordBound) :
    absorb significand digits = (Nat.ofDigitChars 10 digits significand, []) := by
  induction digits generalizing significand with
  | nil => simp [absorb]
  | cons digit digits ih =>
      have hnext : significand * 10 + (digit.toNat - '0'.toNat) =
          10 * significand + (digit.toNat - '0'.toNat) := by
        rw [Nat.mul_comm]
      rw [Nat.ofDigitChars_cons] at h
      -- Digits only add to what comes before them.
      have hle : 10 * significand + (digit.toNat - '0'.toNat) < wordBound := by
        refine Nat.lt_of_le_of_lt ?_ h
        rw [Nat.ofDigitChars_eq_ofDigitChars_zero]
        exact Nat.le_trans (Nat.le_mul_of_pos_left _ (Nat.pow_pos (by decide)))
          (Nat.le_add_right _ _)
      rw [absorb, hnext, if_pos hle, Nat.ofDigitChars_cons]
      exact ih h

def FitsWord (value : Int) : Prop :=
  -0x8000000000000000 ≤ value ∧ value < wordBound

theorem signed_natAbs (value : Int) :
    (if decide (value < 0) = true then -(value.natAbs : Int) else value.natAbs) = value := by
  by_cases hnegative : value < 0
  · rw [if_pos (decide_eq_true hnegative)]
    omega
  · rw [if_neg (by rwa [decide_eq_true_eq])]
    omega

theorem value?_integerNumeral {value : Int} (h : FitsWord value) :
    (integerNumeral value).value? = some (.integer value) := by
  obtain ⟨hlow, hhigh⟩ := h
  have hbound : value.natAbs < wordBound := by
    simp only [wordBound] at hhigh ⊢
    omega
  have hread : absorb 0 (numeral value.natAbs) = (value.natAbs, []) := by
    have hvalue : Nat.ofDigitChars 10 (numeral value.natAbs) 0 = value.natAbs :=
      Nat.ofDigitChars_ten_toDigits
    rw [absorb_eq (by rwa [hvalue]), hvalue]
  have hsign : (integerNumeral value).negative →
      value.natAbs ≠ 0 ∧ value.natAbs ≤ 0x8000000000000000 := by
    simp only [integerNumeral, decide_eq_true_eq]
    omega
  simp only [Numeral.value?, integerNumeral, hread] at hsign ⊢
  rw [if_pos ⟨trivial, trivial, trivial, hsign⟩, signed_natAbs]

end WordHunt.Json
