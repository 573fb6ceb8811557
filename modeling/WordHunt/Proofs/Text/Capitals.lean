import Mathlib.Data.List.Basic
import WordHunt.Text.Case
import WordHunt.Text.Letter

/-!
# Runs of capitals

The runs of a text are made of capitals only, a text is cut at every other character, a run is its
own upper case, and its lower case tells which run it was.
-/

namespace WordHunt.Text

def IsCapitals (s : List Char) : Prop :=
  ∀ c ∈ s, isCapital c = true

instance (s : List Char) : Decidable (IsCapitals s) :=
  decidable_of_iff (s.all isCapital = true) List.all_eq_true

theorem isCapital_iff (c : Char) : isCapital c = true ↔ 65 ≤ c.toNat ∧ c.toNat ≤ 90 := by
  simp only [isCapital, Bool.and_eq_true, decide_eq_true_eq, Char.le_def, UInt32.le_iff_toNat_le]
  rfl

/-! ## Cutting -/

theorem not_of_mem_splitOnP {p : Char → Bool} {s piece : List Char}
    (h : piece ∈ s.splitOnP p) : ∀ c ∈ piece, p c = false := by
  induction s generalizing piece with
  | nil => simp_all
  | cons first s ih =>
      obtain ⟨head, pieces, hpieces⟩ := List.exists_cons_of_ne_nil (List.splitOnP_ne_nil p s)
      rw [List.splitOnP_cons_eq_if_modifyHead, hpieces] at h
      rw [hpieces] at ih
      cases hfirst : p first with
      | true =>
          simp only [hfirst, if_true, List.mem_cons] at h
          rcases h with rfl | h
          · simp
          · exact ih (List.mem_cons.mpr h)
      | false =>
          simp only [hfirst, Bool.false_eq_true, if_false, List.modifyHead_cons,
            List.mem_cons] at h
          rcases h with rfl | h
          · simpa [hfirst] using ih List.mem_cons_self
          · exact ih (List.mem_cons_of_mem head h)

theorem isCapitals_of_mem_capitalRuns {s run : List Char} (h : run ∈ capitalRuns s) :
    IsCapitals run := by
  intro c hc
  simpa using not_of_mem_splitOnP (List.mem_filter.mp h).1 c hc

theorem capitalRuns_append_cons (s t : List Char) {c : Char} (hc : isCapital c = false) :
    capitalRuns (s ++ c :: t) = capitalRuns s ++ capitalRuns t := by
  rw [capitalRuns, List.splitOnP_append_cons s t (by simp [hc]), List.filter_append]
  rfl

theorem capitalRuns_cons {c : Char} (hc : isCapital c = false) (s : List Char) :
    capitalRuns (c :: s) = capitalRuns s := by
  simpa [capitalRuns] using capitalRuns_append_cons [] s hc

theorem capitalRuns_append_of_not_capital {s : List Char} (hs : s.any isCapital = false)
    (t : List Char) : capitalRuns (s ++ t) = capitalRuns t := by
  induction s with
  | nil => rfl
  | cons c s ih =>
      rw [List.any_cons, Bool.or_eq_false_iff] at hs
      rw [List.cons_append, capitalRuns_cons hs.1, ih hs.2]

theorem capitalRuns_of_isCapitals {s : List Char} (hs : IsCapitals s) (hne : s ≠ []) :
    capitalRuns s = [s] := by
  rw [capitalRuns, List.splitOnP_eq_singleton fun c hc => by simp [hs c hc]]
  simp [hne]

/-! ## Upper case -/

theorem toUpper_of_isCapital {c : Char} (hc : isCapital c = true) : c.toUpper = c := by
  have hrange := (isCapital_iff c).mp hc
  have hlower : ¬ ('a'.val ≤ c.val ∧ c.val ≤ 'z'.val) := by
    rintro ⟨hlow, -⟩
    have hcode : 97 ≤ c.toNat := hlow
    omega
  exact dif_neg hlower

theorem upperChar_of_isCapital {c : Char} (hc : isCapital c = true) : upperChar c = [c] := by
  have hrange := (isCapital_iff c).mp hc
  have hascii : c.toNat < 0x80 := by omega
  rw [upperChar, if_pos hascii, toUpper_of_isCapital hc]

theorem upper_of_isCapitals {s : List Char} (hs : IsCapitals s) : upper s = s := by
  induction s with
  | nil => rfl
  | cons c s ih =>
      rw [upper, List.flatMap_cons, upperChar_of_isCapital (hs c List.mem_cons_self), ← upper,
        ih fun other hother => hs other (List.mem_cons_of_mem c hother)]
      rfl

theorem upperCase_of_isCapitals {word : String} (h : IsCapitals word.toList) :
    upperCase word = word := by
  rw [upperCase, upper_of_isCapitals h, String.ofList_toList]

/-! ## Lower case -/

theorem lowerAfter_of_isCapitals {s : List Char} (hs : IsCapitals s) (before : List Char) :
    lowerAfter before s = s.map Char.toLower := by
  induction s generalizing before with
  | nil => rfl
  | cons c s ih =>
      have hcode := (isCapital_iff c).mp (hs c List.mem_cons_self)
      have hsigma : c ≠ 'Σ' := by
        rintro rfl
        exact absurd hcode (by decide)
      have hascii : c.toNat < 0x80 := by omega
      rw [lowerAfter, if_neg hsigma, lowerChar, if_pos hascii,
        ih (fun other hother => hs other (List.mem_cons_of_mem c hother)), List.map_cons]
      rfl

theorem toNat_toLower_of_isCapital {c : Char} (hc : isCapital c = true) :
    c.toLower.toNat = c.toNat + 32 := by
  have hcode := (isCapital_iff c).mp hc
  have hrange : c.val ≥ 'A'.val ∧ c.val ≤ 'Z'.val := hcode
  have hshift : (c.val + ('a'.val - 'A'.val)).toNat = (c.toNat + 32) % 4294967296 :=
    UInt32.toNat_add ..
  have hlower : c.toLower.val = c.val + ('a'.val - 'A'.val) := congrArg Char.val (dif_pos hrange)
  rw [Char.toNat, hlower, hshift]
  omega

theorem toLower_inj {c d : Char} (hc : isCapital c = true) (hd : isCapital d = true) :
    c.toLower = d.toLower ↔ c = d := by
  constructor
  · intro h
    have hcodes := congrArg Char.toNat h
    rw [toNat_toLower_of_isCapital hc, toNat_toLower_of_isCapital hd] at hcodes
    exact Char.toNat_inj.mp (Nat.add_right_cancel hcodes)
  · exact congrArg Char.toLower

theorem lower_inj {s t : List Char} (hs : IsCapitals s) (ht : IsCapitals t) :
    lower s = lower t ↔ s = t := by
  have hback {s : List Char} (hs : IsCapitals s) :
      (lower s).map (fun c => Char.ofNat (c.toNat - 32)) = s := by
    rw [lower, lowerAfter_of_isCapitals hs, List.map_map]
    conv_rhs => rw [← List.map_id s]
    refine List.map_congr_left fun c hc => ?_
    simp [toNat_toLower_of_isCapital (hs c hc)]
  constructor
  · intro h
    rw [← hback hs, h, hback ht]
  · exact congrArg lower

theorem lowerCase_inj {word other : String} (hword : IsCapitals word.toList)
    (hother : IsCapitals other.toList) : lowerCase word = lowerCase other ↔ word = other := by
  rw [lowerCase, lowerCase, String.ofList_inj, lower_inj hword hother, String.toList_inj]

end WordHunt.Text
