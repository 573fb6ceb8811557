import Std.Data.ExtTreeMap
import WordHunt.Text.Numeral

/-!
What is known about a word: its length, letters at fixed positions, letters that occur with the
positions they do not occupy, and letters that do not occur.  Positions count from zero here and
from one in every text.
-/

namespace WordHunt

open Text

def defaultLength : Nat := 5

structure Clues where
  exact : Std.ExtTreeMap Nat Char := ∅
  /-- Each letter that occurs, with the positions where it does not. -/
  present : Std.ExtTreeMap Char (List Nat) := ∅
  absent : List Char := []
  length : Nat := defaultLength
  deriving DecidableEq

structure Seed where
  letter : Char
  position : Nat
  deriving DecidableEq, Repr

/--
The number of a position, counted from one.  It is a word of 64 bits, so the number of the very
last position is zero.
-/
def placeNumber (position : Nat) : Nat :=
  (position + 1) % wordBound

theorem placeNumber_of_lt {position : Nat} (h : position + 1 < wordBound) :
    placeNumber position = position + 1 :=
  Nat.mod_eq_of_lt h

def Clues.seed? (clues : Clues) : Option Seed :=
  clues.exact.toList.head?.map fun (position, letter) => ⟨letter, position⟩

theorem Clues.seed?_eq_some_iff (clues : Clues) (seed : Seed) :
    clues.seed? = some seed ↔
      clues.exact[seed.position]? = some seed.letter ∧
        ∀ position letter, clues.exact[position]? = some letter → seed.position ≤ position := by
  have hordered := clues.exact.ordered_keys_toList
  simp only [← Std.ExtTreeMap.mem_toList_iff_getElem?_eq_some, seed?]
  cases hentries : clues.exact.toList with
  | nil => simp
  | cons entry entries =>
      obtain ⟨position, letter⟩ := entry
      simp only [hentries, List.pairwise_cons, Nat.compare_eq_lt] at hordered
      simp only [List.head?_cons, Option.map_some, Option.some.injEq, List.mem_cons]
      constructor
      · rintro rfl
        refine ⟨.inl rfl, fun other _ hmem => ?_⟩
        rcases hmem with heq | hmem
        · cases heq
          exact Nat.le_refl _
        · exact Nat.le_of_lt (hordered.1 _ hmem)
      · rintro ⟨hmem | hmem, hleast⟩
        · cases hmem
          rfl
        · have hlt := hordered.1 _ hmem
          have hle := hleast position letter (.inl rfl)
          omega

end WordHunt
