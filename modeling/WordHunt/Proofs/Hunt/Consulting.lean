import WordHunt.Proofs.Dictionary.Ledger
import WordHunt.Proofs.Hunt.LookUp

/-!
# Consulting the dictionary about a list of words

The words go to the dictionary in their order, and only those that nothing is remembered about.
In the end every word has a remembered verdict, and the words kept are those that exist by it.
-/

namespace WordHunt

open Text

variable {σ : Type}

namespace Hunter

variable (hunter : Hunter) (dictionary : Dictionary) (length : Nat) (partner : Partner σ)
  (asked : Bool) (state : σ) (verdicts : Verdicts) (words : List String)

theorem exchanges_lookUpFrom_cons (word : String) :
    let checked := (dictionary.check verdicts word length).hold partner state
    (hunter.lookUpFrom dictionary length asked verdicts (word :: words)).exchanges partner state =
      (dictionary.check verdicts word length).exchanges partner state ++
        (hunter.lookUpFrom dictionary length checked.value.1.isFresh checked.value.2
          words).exchanges partner checked.state := by
  cases asked <;>
    simp only [lookUpFrom, if_true, Bool.false_eq_true, if_false, Dialogue.exchanges,
      Dialogue.exchanges_seq, Dialogue.exchanges_pure, List.append_nil]

theorem asked_lookUpFrom (hlength : ∀ word ∈ words, word.length = length)
    (hnodup : words.Nodup) :
    ((hunter.lookUpFrom dictionary length asked verdicts words).exchanges partner state).map
        Exchange.asked =
      (words.filter fun word => (verdicts.get? word length).isNone).map fun word =>
        (dictionary.lookupRequest word, 1) := by
  induction words generalizing asked state verdicts with
  | nil => rfl
  | cons word words ih =>
      rw [List.forall_mem_cons] at hlength
      rw [List.nodup_cons] at hnodup
      have hrest := ih
        ((dictionary.check verdicts word length).hold partner state).value.1.isFresh
        ((dictionary.check verdicts word length).hold partner state).state
        ((dictionary.check verdicts word length).hold partner state).value.2
        hlength.2 hnodup.2
      -- What is remembered of this word does not concern the others.
      have hsame : (words.filter fun other =>
          (((dictionary.check verdicts word length).hold partner state).value.2.get? other
            length).isNone) =
          words.filter fun other => (verdicts.get? other length).isNone := by
        refine List.filter_congr fun other hother => ?_
        rw [dictionary.get?_check_of_ne]
        rintro ⟨rfl, -⟩
        exact hnodup.1 hother
      rw [exchanges_lookUpFrom_cons, List.map_append, hrest, hsame, dictionary.exchanges_check]
      cases hword : verdicts.get? word length with
      | some known => simp [hword]
      | none =>
          rw [if_pos ⟨rfl, hlength.1⟩]
          simp [hword, Exchange.asked, Dictionary.consultation]

theorem get?_lookUpFrom_of_some {other : String} {size : Nat} {exist : Bool}
    (h : verdicts.get? other size = some exist) :
    ((hunter.lookUpFrom dictionary length asked verdicts words).hold partner
      state).value.verdicts.get? other size = some exist := by
  induction words generalizing asked state verdicts with
  | nil => exact h
  | cons word words ih =>
      rw [hold_lookUpFrom_cons, LookedUp.verdicts_withWord]
      exact ih _ _ _ (dictionary.get?_check_of_some partner state verdicts h)

theorem exists_get?_lookUpFrom {word : String} (hword : word ∈ words) :
    ∃ exist, ((hunter.lookUpFrom dictionary length asked verdicts words).hold partner
      state).value.verdicts.get? word length = some exist := by
  induction words generalizing asked state verdicts with
  | nil => simp at hword
  | cons other words ih =>
      rw [hold_lookUpFrom_cons, LookedUp.verdicts_withWord]
      rcases List.mem_cons.mp hword with rfl | hword
      · exact ⟨_, hunter.get?_lookUpFrom_of_some dictionary length partner _ _ _ words
          (dictionary.get?_check partner state verdicts)⟩
      · exact ih _ _ _ hword

theorem lookUpFrom_keeps :
    let lookedUp :=
      ((hunter.lookUpFrom dictionary length asked verdicts words).hold partner state).value
    lookedUp.found = words.filter fun word =>
      lookedUp.verdicts.get? word length = some true := by
  induction words generalizing asked state verdicts with
  | nil => rfl
  | cons word words ih =>
      let checked := (dictionary.check verdicts word length).hold partner state
      have hkeeps := ih checked.value.1.isFresh checked.state checked.value.2
      have hknown := hunter.get?_lookUpFrom_of_some dictionary length partner
        checked.value.1.isFresh checked.state checked.value.2 words
        (dictionary.get?_check partner state verdicts)
      rw [hold_lookUpFrom_cons]
      dsimp only at hkeeps ⊢
      rw [LookedUp.verdicts_withWord, LookedUp.found_withWord, List.filter_cons, hknown, ← hkeeps]
      cases checked.value.1.exist <;> simp [checked]

theorem restOn_lookUpFrom {ledger : List Exchange} (rests : verdicts.RestOn dictionary ledger)
    (hwords : ∀ word ∈ words, IsCapitals word.toList ∧ word.length = length) :
    let lookingUp := hunter.lookUpFrom dictionary length asked verdicts words
    (lookingUp.hold partner state).value.verdicts.RestOn dictionary
      (ledger ++ lookingUp.exchanges partner state) := by
  intro lookingUp
  induction words generalizing asked state verdicts ledger with
  | nil => simpa [lookingUp, lookUpFrom] using rests
  | cons word words ih =>
      rw [List.forall_mem_cons] at hwords
      obtain ⟨⟨hcapitals, rfl⟩, hwords⟩ := hwords
      have hchecked := rests.check partner state hcapitals
      simp only [lookingUp, hold_lookUpFrom_cons, LookedUp.verdicts_withWord,
        exchanges_lookUpFrom_cons]
      rw [← List.append_assoc]
      exact ih _ _ _ hchecked hwords

end Hunter

end WordHunt
