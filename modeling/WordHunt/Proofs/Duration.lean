import Mathlib
import WordHunt.Duration

/-!
# Spans of time in machine words

A span of time has its whole seconds in a word of 64 bits and the nanoseconds of the second begun in
one of 32.  It is doubled part by part, with the seconds that the nanoseconds fill carried over, and
it becomes the longest span as soon as the seconds do not fit.  This is doubling of the nanoseconds
in all, cut off at the longest span, and so is doing it over and over.
-/

namespace WordHunt

open Text

/-! ## Words of 64 bits -/

/-- A number in a word of 64 bits, if it fits. -/
def word? (n : Nat) : Option UInt64 :=
  if n < wordBound then some (.ofNat n) else none

theorem toNat_lt_wordBound (word : UInt64) : word.toNat < wordBound :=
  word.toNat_lt

theorem word?_eq_some_iff {n : Nat} {word : UInt64} : word? n = some word ↔ word.toNat = n := by
  rw [word?]
  constructor
  · intro h
    split at h
    · next hlt =>
      obtain rfl := Option.some.inj h
      exact UInt64.toNat_ofNat_of_lt' hlt
    · contradiction
  · rintro rfl
    rw [if_pos (toNat_lt_wordBound word), UInt64.ofNat_toNat]

theorem exists_word (n : Nat) (h : n < wordBound) : ∃ word : UInt64, word.toNat = n :=
  ⟨.ofNat n, UInt64.toNat_ofNat_of_lt' h⟩

/-! ## Doubling -/

namespace Duration

theorem nanos_longest : longest.nanos = 18446744073709551615 * 1000000000 + 999999999 := by
  unfold longest wordBound
  rfl

theorem nanos_double (span : Duration) :
    span.double.nanos = min (2 * span.nanos) longest.nanos := rfl

end Duration

structure SplitSpan where
  seconds : UInt64
  nanos : UInt32
  nanos_lt : nanos.toNat < 1000000000

namespace SplitSpan

open Duration (nanos_longest)

def longest : SplitSpan :=
  ⟨18446744073709551615, 999999999, by decide⟩

def span (split : SplitSpan) : Duration :=
  ⟨split.seconds.toNat * 1000000000 + split.nanos.toNat⟩

variable (split : SplitSpan)

def doubledNanos : UInt64 :=
  split.nanos.toUInt64 * 2

theorem toNat_doubledNanos : split.doubledNanos.toNat = split.nanos.toNat * 2 := by
  have hlt := split.nanos_lt
  rw [doubledNanos, UInt64.toNat_mul, UInt32.toNat_toUInt64]
  exact Nat.mod_eq_of_lt (by simp; omega)

def doubledSeconds? : Option UInt64 := do
  let twice ← word? (split.seconds.toNat * 2)
  word? (twice.toNat + (split.doubledNanos / 1000000000).toNat)

theorem doubledSeconds?_eq_some_iff {word : UInt64} :
    split.doubledSeconds? = some word ↔
      word.toNat = split.seconds.toNat * 2 + split.nanos.toNat * 2 / 1000000000 := by
  have hcarry : (split.doubledNanos / 1000000000).toNat = split.nanos.toNat * 2 / 1000000000 := by
    rw [UInt64.toNat_div, toNat_doubledNanos]
    rfl
  simp only [doubledSeconds?, Option.bind_eq_bind, Option.bind_eq_some_iff, word?_eq_some_iff,
    hcarry]
  constructor
  · rintro ⟨twice, htwice, hword⟩
    rw [hword, htwice]
  · intro hword
    have hlt := toNat_lt_wordBound word
    obtain ⟨twice, htwice⟩ := exists_word (split.seconds.toNat * 2) (by omega)
    exact ⟨twice, htwice, by rw [htwice, hword]⟩

theorem toNat_rest :
    (split.doubledNanos % 1000000000).toUInt32.toNat = split.nanos.toNat * 2 % 1000000000 := by
  have hlt := Nat.mod_lt (split.nanos.toNat * 2) (show 0 < 1000000000 by decide)
  have hrest : (split.doubledNanos % 1000000000).toNat = split.nanos.toNat * 2 % 1000000000 := by
    rw [UInt64.toNat_mod, toNat_doubledNanos]
    rfl
  rw [UInt64.toNat_toUInt32, hrest]
  exact Nat.mod_eq_of_lt (by omega)

def double : SplitSpan :=
  match split.doubledSeconds? with
  | some seconds =>
      ⟨seconds, (split.doubledNanos % 1000000000).toUInt32, by
        rw [toNat_rest]
        exact Nat.mod_lt _ (by decide)⟩
  | none => longest

theorem nanos_span_le : split.span.nanos ≤ Duration.longest.nanos := by
  have hseconds : split.seconds.toNat < 18446744073709551616 := toNat_lt_wordBound split.seconds
  have hnanos := split.nanos_lt
  rw [nanos_longest, span]
  dsimp only
  omega

theorem nanos_span_longest : longest.span.nanos = Duration.longest.nanos := by
  rw [nanos_longest]
  decide

theorem nanos_span_double : split.double.span.nanos = split.span.double.nanos := by
  rw [Duration.nanos_double, nanos_longest]
  unfold double
  cases hdoubled : split.doubledSeconds? with
  | some seconds =>
      have hseconds := split.doubledSeconds?_eq_some_iff.mp hdoubled
      have hlt : seconds.toNat < 18446744073709551616 := toNat_lt_wordBound seconds
      simp only [span, toNat_rest]
      omega
  | none =>
      -- The seconds do not fit only if the nanoseconds are beyond the longest span.
      have hlarge : 18446744073709551616 ≤
          split.seconds.toNat * 2 + split.nanos.toNat * 2 / 1000000000 := by
        by_contra hlt
        obtain ⟨word, hword⟩ := exists_word _ (Nat.lt_of_not_le hlt)
        rw [split.doubledSeconds?_eq_some_iff.mpr hword] at hdoubled
        contradiction
      dsimp only
      rw [nanos_span_longest, nanos_longest, span]
      dsimp only
      omega

theorem span_double : split.double.span = split.span.double :=
  congrArg Duration.mk split.nanos_span_double

example :
    double ⟨1, 600000000, by decide⟩ = ⟨3, 200000000, by decide⟩ ∧
      double ⟨9223372036854775807, 999999999, by decide⟩ =
        ⟨18446744073709551615, 999999998, by decide⟩ ∧
      double ⟨9223372036854775808, 0, by decide⟩ = longest := by
  exact ⟨rfl, rfl, rfl⟩

end SplitSpan

/-! ## Doubling over and over -/

theorem Duration.nanos_iterate_double {span : Duration} (h : span.nanos ≤ longest.nanos)
    (count : Nat) :
    (double^[count] span).nanos = min (span.nanos * 2 ^ count) longest.nanos := by
  induction count with
  | zero => simp [h]
  | succ count ih =>
      -- Past the longest span the product goes on growing, and the minimum stays.
      rw [Function.iterate_succ_apply', nanos_double, ih, Nat.pow_succ, ← Nat.mul_assoc]
      omega

theorem SplitSpan.span_iterate_double (split : SplitSpan) (count : Nat) :
    (double^[count] split).span = Duration.double^[count] split.span :=
  Function.Semiconj.iterate_right (f := span) span_double count split

end WordHunt
