import Std.Data.ExtTreeMap

/-!
Remembered answers of a dictionary.  An answer is kept for a word together with the length that
was asked for, and is never forgotten.
-/

namespace WordHunt

abbrev Query := String × Nat

def Query.compare : Query → Query → Ordering :=
  compareLex (compareOn Prod.fst) (compareOn Prod.snd)

instance : Std.TransCmp Query.compare :=
  inferInstanceAs (Std.TransCmp (compareLex (compareOn Prod.fst) (compareOn Prod.snd)))

instance : Std.LawfulEqCmp Query.compare where
  eq_of_compare {a b} h := by
    simp only [Query.compare, compareLex_eq_eq, compareOn, Std.LawfulEqOrd.compare_eq_iff_eq] at h
    exact Prod.ext h.1 h.2

structure Verdicts where
  entries : Std.ExtTreeMap Query Bool Query.compare := ∅
  deriving DecidableEq

namespace Verdicts

def empty : Verdicts := {}

def get? (verdicts : Verdicts) (word : String) (length : Nat) : Option Bool :=
  verdicts.entries[(word, length)]?

def insert (verdicts : Verdicts) (word : String) (length : Nat) (exist : Bool) : Verdicts :=
  ⟨verdicts.entries.insert (word, length) exist⟩

def size (verdicts : Verdicts) : Nat :=
  verdicts.entries.size

def isEmpty (verdicts : Verdicts) : Bool :=
  verdicts.entries.isEmpty

theorem get?_insert (verdicts : Verdicts) (word other : String) (length size : Nat)
    (exist : Bool) :
    (verdicts.insert word length exist).get? other size =
      if other = word ∧ size = length then some exist else verdicts.get? other size := by
  simp only [insert, get?, Std.ExtTreeMap.getElem?_insert, Std.LawfulEqCmp.compare_eq_iff_eq]
  by_cases h : other = word ∧ size = length
  · simp [h]
  · have hne : (word, length) ≠ (other, size) := by
      intro heq
      cases heq
      exact h ⟨rfl, rfl⟩
    simp [h, hne]

theorem size_insert (verdicts : Verdicts) (word : String) (length : Nat) (exist : Bool) :
    (verdicts.insert word length exist).size =
      verdicts.size + if verdicts.get? word length = none then 1 else 0 := by
  simp only [insert, size, get?, Std.ExtTreeMap.size_insert, getElem?_eq_none_iff]
  split <;> simp_all

end Verdicts

end WordHunt
