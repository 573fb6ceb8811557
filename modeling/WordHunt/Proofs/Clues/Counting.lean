import WordHunt.Catalogue.Address
import WordHunt.Clues.Printer
import WordHunt.Proofs.Blame
import WordHunt.Proofs.Clues.Bounds

/-!
# Positions are counted within a word of memory

Positions count from zero, and every text names them by one more.  Here a text is written only if
none of these numbers needs more than 64 bits.  That is always so for the clues of a text: their
letters are settled at the first nine positions, and a position is excluded by a number that was
read, so it was one less.
-/

namespace WordHunt

open Text

/-! ## Texts that count with care -/

def placeNumber? (position : Nat) : Option Nat :=
  if position + 1 < wordBound then some (position + 1) else none

def Seed.toText? (seed : Seed) : Option String :=
  (placeNumber? seed.position).map fun place =>
    String.singleton seed.letter ++ " at position " ++ numeralText place

/-- The first five positions have names of their own and are not counted. -/
def Catalogue.ordinal? (position : Nat) : Option String :=
  if position < 5 then some (ordinal position)
  else (placeNumber? position).map fun place => "position" ++ numeralText place

def Violation.message? : Violation → Option String
  | .exact position =>
      (placeNumber? position).map fun place => "wrong letter at position " ++ numeralText place
  | .misplaced letter position =>
      (placeNumber? position).map fun place =>
        String.singleton letter ++ " may not be at position " ++ numeralText place
  | violation => some violation.message

namespace Clues

def exactLine? (position : Nat) (letter : Char) : Option String :=
  (placeNumber? position).map fun place =>
    String.singleton letter ++ " AT " ++ numeralText place

def presentLine? (letter : Char) (excluded : List Nat) : Option String :=
  (excluded.mapM placeNumber?).map fun places =>
    String.singleton letter ++ " IN WORD" ++
      if places = [] then "" else ", NOT AT " ++ joinWith ", " (places.map numeralText)

def toText? (clues : Clues) : Option String := do
  let exact ← clues.exact.toList.mapM fun (position, letter) => exactLine? position letter
  let present ← clues.present.toList.mapM fun (letter, excluded) => presentLine? letter excluded
  let absent := if clues.absent = [] then [] else [absentLine clues.absent.eraseDups]
  some (joinWith "\n" (exact ++ present ++ absent ++ [lengthLine clues.length]))

end Clues

/-! ## Numbers that fit -/

theorem mapM_of_forall_eq_some {α β : Type} {f : α → Option β} {g : α → β} {items : List α}
    (h : ∀ item ∈ items, f item = some (g item)) : items.mapM f = some (items.map g) := by
  induction items with
  | nil => rfl
  | cons item items ih =>
      obtain ⟨hitem, hitems⟩ := List.forall_mem_cons.mp h
      rw [List.mapM_cons, hitem, ih hitems]
      rfl

theorem placeNumber?_of_lt {position : Nat} (h : position + 1 < wordBound) :
    placeNumber? position = some (placeNumber position) := by
  rw [placeNumber?, if_pos h, placeNumber_of_lt h]

-- The bound is sharp: of the very last position only the wrapped number is left, which is zero.
example : placeNumber? (wordBound - 1) = none ∧ placeNumber (wordBound - 1) = 0 := by
  decide

theorem Seed.toText?_of_lt {seed : Seed} (h : seed.position + 1 < wordBound) :
    seed.toText? = some seed.toText := by
  rw [toText?, placeNumber?_of_lt h]
  rfl

theorem Catalogue.ordinal?_of_lt {position : Nat} (h : position + 1 < wordBound) :
    ordinal? position = some (ordinal position) := by
  rw [ordinal?]
  split
  · rfl
  · next hfive =>
      obtain ⟨beyond, rfl⟩ := Nat.exists_eq_add_of_le' (Nat.le_of_not_lt hfive)
      rw [placeNumber?_of_lt h]
      rfl

namespace Clues

theorem exactLine?_of_lt {position : Nat} (h : position + 1 < wordBound) (letter : Char) :
    exactLine? position letter = some (exactLine position letter) := by
  rw [exactLine?, placeNumber?_of_lt h]
  rfl

theorem presentLine?_of_forall_lt {excluded : List Nat}
    (h : ∀ position ∈ excluded, position + 1 < wordBound) (letter : Char) :
    presentLine? letter excluded = some (presentLine letter excluded) := by
  have hplaces : excluded.mapM placeNumber? = some (excluded.map placeNumber) :=
    mapM_of_forall_eq_some fun position hposition => placeNumber?_of_lt (h position hposition)
  simp [presentLine?, presentLine, hplaces, Function.comp_def]

end Clues

/-! ## What the clues of a text name -/

namespace Clues

namespace Printable

variable {clues : Clues} (h : clues.Printable)
include h

theorem place_lt {position : Nat} {letter : Char} (hentry : clues.exact[position]? = some letter) :
    position + 1 < wordBound :=
  Nat.lt_trans (Nat.succ_lt_succ (h.exact position letter hentry).2) (by decide)

theorem toText?_eq : clues.toText? = some clues.toText := by
  have hexact : clues.exact.toList.mapM (fun (position, letter) => exactLine? position letter) =
      some (clues.exact.toList.map fun (position, letter) => exactLine position letter) := by
    refine mapM_of_forall_eq_some ?_
    rintro ⟨position, letter⟩ hentry
    rw [Std.ExtTreeMap.mem_toList_iff_getElem?_eq_some] at hentry
    exact exactLine?_of_lt (h.place_lt hentry) letter
  have hpresent :
      clues.present.toList.mapM (fun (letter, excluded) => presentLine? letter excluded) =
        some (clues.present.toList.map fun (letter, excluded) => presentLine letter excluded) := by
    refine mapM_of_forall_eq_some ?_
    rintro ⟨letter, excluded⟩ hentry
    rw [Std.ExtTreeMap.mem_toList_iff_getElem?_eq_some] at hentry
    exact presentLine?_of_forall_lt (h.present letter excluded hentry).2 letter
  rw [toText?, hexact, hpresent]
  rfl

theorem seed_lt {seed : Seed} (hseed : seed ∈ clues.seed?) : seed.position + 1 < wordBound :=
  h.place_lt ((clues.seed?_eq_some_iff seed).mp hseed).1

theorem message?_eq {word : String} {violation : Violation}
    (hviolation : violation ∈ clues.violation? word) :
    violation.message? = some violation.message := by
  obtain ⟨-, hfirst⟩ := (clues.violation?_eq_some_iff word violation).mp hviolation
  cases violation with
  | exact position =>
      obtain ⟨hviolated, -⟩ := hfirst
      simp only [ExactAt, not_forall] at hviolated
      obtain ⟨letter, hentry, -⟩ := hviolated
      rw [Violation.message?, placeNumber?_of_lt (h.place_lt hentry)]
      rfl
  | misplaced letter position =>
      obtain ⟨-, -, ⟨before, after, hentry, -⟩, -⟩ := hfirst
      have hplace := (h.present letter _ hentry).2 position (by simp)
      rw [Violation.message?, placeNumber?_of_lt hplace]
      rfl
  | length | absent | missing => rfl

end Printable

/--
The clues of a text name capitals only, settle letters at the first nine positions, measure the word
by a positive number of 64 bits, and exclude no position whose number needs more.  So their
canonical text, their seed with its ordinal, and every reason for which they turn a word away are
written without a number that does not fit.
-/
theorem ofText_counts_within_word (text : String) :
    (∀ position letter, (ofText text).exact[position]? = some letter →
        position ≤ 8 ∧ isCapital letter = true) ∧
      (∀ letter positions, (ofText text).present[letter]? = some positions →
        isCapital letter = true ∧ ∀ position ∈ positions, position < 2 ^ 64 - 1) ∧
      (∀ letter ∈ (ofText text).absent, isCapital letter = true) ∧
      1 ≤ (ofText text).length ∧ (ofText text).length < 2 ^ 64 ∧
      (ofText text).toText? = some (ofText text).toText ∧
      (∀ seed ∈ (ofText text).seed?, seed.toText? = some seed.toText ∧
        Catalogue.ordinal? seed.position = some (Catalogue.ordinal seed.position)) ∧
      ∀ word, ∀ violation ∈ (ofText text).violation? word,
        violation.message? = some violation.message := by
  have h := ofText_printable text
  have hbound : wordBound = 2 ^ 64 := by decide
  refine ⟨fun position letter hentry => ?_, fun letter positions hentry => ?_, h.absent, h.length.1,
    hbound ▸ h.length.2, h.toText?_eq, fun seed hseed => ?_, fun word violation => h.message?_eq⟩
  · obtain ⟨hletter, hplace⟩ := h.exact position letter hentry
    exact ⟨Nat.le_of_lt_succ hplace, hletter⟩
  · obtain ⟨hletter, hplaces⟩ := h.present letter positions hentry
    refine ⟨hletter, fun position hposition => ?_⟩
    have hplace := hplaces position hposition
    omega
  · have hplace := h.seed_lt hseed
    exact ⟨Seed.toText?_of_lt hplace, Catalogue.ordinal?_of_lt hplace⟩

/-- Of the numbers behind NOT AT only the second excludes a position, the highest there is. -/
theorem ofText_counts_within_word_sample :
    let text := "ſ in word, not at 0, 18446744073709551615, 18446744073709551616\n" ++
      "a at ٣\no at 9\no at 10\nno ß, ı, q\nlength: 18446744073709551616"
    let clues : Clues :=
      { exact := .ofList [(8, 'O')]
        present := .ofList [('S', [2 ^ 64 - 2])]
        absent := ['I', 'Q'] }
    ofText text = clues ∧
      clues.toText? =
        some "O AT 9\nS IN WORD, NOT AT 18446744073709551615\nNO I, Q\nLENGTH: 5" ∧
      clues.seed? = some ⟨'O', 8⟩ ∧ Seed.toText? ⟨'O', 8⟩ = some "O at position 9" ∧
      Catalogue.ordinal? 8 = some "position9" ∧
      clues.violation? "cloak" = some (.exact 8) ∧
      Violation.message? (.exact 8) = some "wrong letter at position 9" := by
  intro text clues
  have hclues : ofText text = clues := by decide +kernel
  have hseed : clues.seed? = some ⟨'O', 8⟩ := by decide +kernel
  have hviolation : clues.violation? "cloak" = some (.exact 8) := by decide +kernel
  have hprinted : clues.toText =
      "O AT 9\nS IN WORD, NOT AT 18446744073709551615\nNO I, Q\nLENGTH: 5" := by
    decide +kernel
  obtain ⟨-, -, -, -, -, htext, hseeds, hmessages⟩ := ofText_counts_within_word text
  rw [hclues] at htext hseeds hmessages
  rw [hprinted] at htext
  obtain ⟨hseedText, hordinal⟩ := hseeds ⟨'O', 8⟩ hseed
  have hmessage := hmessages "cloak" (.exact 8) hviolation
  exact ⟨hclues, htext, hseed, hseedText, hordinal, hviolation, hmessage⟩

end Clues

end WordHunt
