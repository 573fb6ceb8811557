import WordHunt.Hunt.Basic
import WordHunt.Proofs.Exchange.Series

/-!
# Looking up a list of words

The words are put to the dictionary in their order, each with what has been remembered up to
then.  Those whose verdict is that they exist are kept, in the same order, and the pauses between
two requests have no influence on which ones.
-/

namespace WordHunt

variable {σ : Type}

def Dictionary.rulings (dictionary : Dictionary) (length : Nat) (partner : Partner σ) :
    σ → Verdicts → List String → List (String × Verdict)
  | _, _, [] => []
  | state, verdicts, word :: words =>
      let checked := (dictionary.check verdicts word length).hold partner state
      (word, checked.value.1) ::
        dictionary.rulings length partner checked.state checked.value.2 words

def existing (rulings : List (String × Verdict)) : List String :=
  (rulings.filter (·.2.exist)).map Prod.fst

theorem existing_cons (word : String) (verdict : Verdict) (rulings : List (String × Verdict)) :
    existing ((word, verdict) :: rulings) =
      if verdict.exist then word :: existing rulings else existing rulings := by
  cases hverdict : verdict.exist <;> simp [existing, hverdict]

theorem mem_existing {word : String} {rulings : List (String × Verdict)} :
    word ∈ existing rulings ↔ ∃ verdict, (word, verdict) ∈ rulings ∧ verdict.exist := by
  simp [existing]

theorem existing_sublist (rulings : List (String × Verdict)) :
    (existing rulings).Sublist (rulings.map Prod.fst) :=
  List.filter_sublist.map Prod.fst

namespace Dictionary

variable (dictionary : Dictionary) (length : Nat) (partner : Partner σ)

theorem map_fst_rulings (words : List String) (state : σ) (verdicts : Verdicts) :
    (dictionary.rulings length partner state verdicts words).map Prod.fst = words := by
  induction words generalizing state verdicts with
  | nil => rfl
  | cons word words ih => rw [rulings, List.map_cons, ih]

end Dictionary

namespace Hunter

theorem LookedUp.found_withWord (lookedUp : LookedUp) (word : String) (verdict : Verdict) :
    (lookedUp.withWord word verdict).found =
      if verdict.exist then word :: lookedUp.found else lookedUp.found := by
  rw [withWord]
  split <;> rfl

theorem LookedUp.length_found_add_unknown_withWord (lookedUp : LookedUp) (word : String)
    (verdict : Verdict) :
    (lookedUp.withWord word verdict).found.length + (lookedUp.withWord word verdict).unknown =
      lookedUp.found.length + lookedUp.unknown + 1 := by
  rw [withWord]
  split
  · exact Nat.add_right_comm ..
  · rfl

@[simp] theorem LookedUp.verdicts_withWord (lookedUp : LookedUp) (word : String)
    (verdict : Verdict) : (lookedUp.withWord word verdict).verdicts = lookedUp.verdicts := by
  rw [withWord]
  split <;> rfl

variable (hunter : Hunter) (length : Nat) (partner : Partner σ)

theorem hold_lookUpFrom_cons (dictionary : Dictionary) (state : σ) (verdicts : Verdicts)
    (word : String) (words : List String) (asked : Bool) :
    let checked := (dictionary.check verdicts word length).hold partner state
    let rest := (hunter.lookUpFrom dictionary length checked.value.1.isFresh checked.value.2
      words).hold partner checked.state
    ((hunter.lookUpFrom dictionary length asked verdicts (word :: words)).hold partner
        state).value =
      rest.value.withWord word checked.value.1 := by
  -- The pause after a request changes neither the value nor the partner.
  cases asked <;>
    simp only [lookUpFrom, if_true, Bool.false_eq_true, if_false, Dialogue.hold,
      Dialogue.hold_seq, Dialogue.hold_pure]

theorem found_lookUpFrom (dictionary : Dictionary) (words : List String) (asked : Bool)
    (verdicts : Verdicts) (state : σ) :
    ((hunter.lookUpFrom dictionary length asked verdicts words).hold partner state).value.found =
      existing (dictionary.rulings length partner state verdicts words) := by
  induction words generalizing asked verdicts state with
  | nil => rfl
  | cons word words ih =>
      rw [Dictionary.rulings, existing_cons, hold_lookUpFrom_cons, LookedUp.found_withWord, ih]

theorem length_found_add_unknown_lookUpFrom (dictionary : Dictionary) (words : List String)
    (asked : Bool) (verdicts : Verdicts) (state : σ) :
    let lookedUp :=
      ((hunter.lookUpFrom dictionary length asked verdicts words).hold partner state).value
    lookedUp.found.length + lookedUp.unknown = words.length := by
  induction words generalizing asked verdicts state with
  | nil => rfl
  | cons word words ih =>
      simp only [hold_lookUpFrom_cons, LookedUp.length_found_add_unknown_withWord, ih,
        List.length_cons]

/-- The words that a hunter keeps of a list: those that exist, if there is a dictionary. -/
def confirmed (state : σ) (words : List String) : List String :=
  match hunter.dictionary with
  | some dictionary => existing (dictionary.rulings length partner state hunter.verdicts words)
  | none => words

theorem lookUp_of_no_dictionary (h : hunter.dictionary = none) (words : List String) :
    hunter.lookUp length words = .done { found := words, verdicts := hunter.verdicts } := by
  simp only [lookUp, h]

theorem confirmed_of_no_dictionary (h : hunter.dictionary = none) (state : σ)
    (words : List String) : hunter.confirmed length partner state words = words := by
  simp only [confirmed, h]

theorem found_lookUp (words : List String) (state : σ) :
    ((hunter.lookUp length words).hold partner state).value.found =
      hunter.confirmed length partner state words := by
  rw [lookUp, confirmed]
  cases hunter.dictionary with
  | none => rfl
  | some dictionary => exact hunter.found_lookUpFrom length partner dictionary words ..

theorem unknown_lookUp (words : List String) (state : σ) :
    ((hunter.lookUp length words).hold partner state).value.unknown =
      words.length - (hunter.confirmed length partner state words).length := by
  have hlength : (hunter.confirmed length partner state words).length +
      ((hunter.lookUp length words).hold partner state).value.unknown = words.length := by
    rw [← found_lookUp, lookUp]
    cases hunter.dictionary with
    | none => rfl
    | some dictionary =>
        exact hunter.length_found_add_unknown_lookUpFrom length partner dictionary words ..
  omega

theorem confirmed_sublist (state : σ) (words : List String) :
    (hunter.confirmed length partner state words).Sublist words := by
  rw [confirmed]
  cases hunter.dictionary with
  | none => exact List.Sublist.refl words
  | some dictionary =>
      simpa only [dictionary.map_fst_rulings] using
        existing_sublist (dictionary.rulings length partner state hunter.verdicts words)

end Hunter

end WordHunt
