import Mathlib
import WordHunt.Screening

/-!
# Why a word is turned away

Clues are of four kinds, which are checked in a fixed order.  A word fits if it meets the clues of
all kinds; else it is turned away for the first clue that it violates: all kinds before are met, and
of its own kind it is the first in the order of positions, of letters, or of the list it stands in.
-/

namespace WordHunt

open Text

/-! ## The first entry of an ordered map -/

section FirstEntry

variable {κ α β : Type} {cmp : κ → κ → Ordering} [Std.TransCmp cmp] [Std.LawfulEqCmp cmp]
  {entries : Std.ExtTreeMap κ α cmp} {f : κ × α → Option β}

theorem findSome?_toList_eq_some_iff {found : β} :
    entries.toList.findSome? f = some found ↔
      ∃ key value, entries[key]? = some value ∧ f (key, value) = some found ∧
        ∀ lower, cmp lower key = .lt → ∀ other, entries[lower]? = some other →
          f (lower, other) = none := by
  -- The keys of the list ascend, so those before an entry are the lower ones.
  have hordered := entries.ordered_keys_toList
  have hirreflexive (key : κ) : cmp key key ≠ .lt := by simp [Std.ReflCmp.compare_self]
  simp only [List.findSome?_eq_some_iff, ← Std.ExtTreeMap.mem_toList_iff_getElem?_eq_some]
  constructor
  · rintro ⟨before, ⟨key, value⟩, after, hentries, hfound, hbefore⟩
    rw [hentries, List.pairwise_append, List.pairwise_cons] at hordered
    obtain ⟨-, ⟨hafter, -⟩, -⟩ := hordered
    rw [hentries]
    refine ⟨key, value, by simp, hfound, ?_⟩
    intro lower hlower other hother
    simp only [List.mem_append, List.mem_cons] at hother
    rcases hother with hother | heq | hother
    · exact hbefore _ hother
    · cases heq
      exact absurd hlower (hirreflexive key)
    · exact absurd (Std.TransCmp.lt_trans hlower (hafter _ hother)) (hirreflexive lower)
  · rintro ⟨key, value, hmem, hfound, hlower⟩
    obtain ⟨before, after, hentries⟩ := List.append_of_mem hmem
    refine ⟨before, (key, value), after, hentries, hfound, ?_⟩
    rw [hentries, List.pairwise_append] at hordered
    obtain ⟨-, -, hbefore⟩ := hordered
    rintro ⟨lower, other⟩ hother
    apply hlower
    · exact hbefore _ hother _ List.mem_cons_self
    · rw [hentries]
      exact List.mem_append_left _ hother

end FirstEntry

/-! ## Clues of each kind -/

def Violation.Kind.rank : Violation.Kind → Nat
  | .length => 0
  | .exact => 1
  | .absent => 2
  | .present => 3

namespace Clues

section Kinds

variable (clues : Clues) (letters : List Char)

def ExactAt (position : Nat) : Prop :=
  ∀ letter, clues.exact[position]? = some letter → letters[position]? = some letter

def PresentAt (letter : Char) : Prop :=
  ∀ excluded, clues.present[letter]? = some excluded →
    letter ∈ letters ∧ ∀ position ∈ excluded, letters[position]? ≠ some letter

def Meets : Violation.Kind → Prop
  | .length => letters.length = clues.length
  | .exact => ∀ position, clues.ExactAt letters position
  | .absent => ∀ letter ∈ clues.absent, letter ∉ letters
  | .present => ∀ letter, clues.PresentAt letters letter

/-- The letters violate the clue, and no clue of the same kind before it. -/
def FirstOfKind : Violation → Prop
  | .length actual => letters.length = actual ∧ actual ≠ clues.length
  | .exact position =>
      ¬ clues.ExactAt letters position ∧ ∀ lower < position, clues.ExactAt letters lower
  | .absent letter =>
      letter ∈ letters ∧ ∃ before after, clues.absent = before ++ letter :: after ∧
        ∀ earlier ∈ before, earlier ∉ letters
  | .missing letter =>
      clues.present[letter]? ≠ none ∧ letter ∉ letters ∧
        ∀ lower < letter, clues.PresentAt letters lower
  | .misplaced letter position =>
      letter ∈ letters ∧ letters[position]? = some letter ∧
        (∃ before after, clues.present[letter]? = some (before ++ position :: after) ∧
          ∀ earlier ∈ before, letters[earlier]? ≠ some letter) ∧
        ∀ lower < letter, clues.PresentAt letters lower

end Kinds

/-! ## The check of one kind -/

section Checks

variable (clues : Clues) {letters : List Char} {violation : Violation}

theorem exactViolation?_eq_none_iff :
    clues.exactViolation? letters = none ↔ clues.Meets letters .exact := by
  simp [exactViolation?, Meets, ExactAt]

theorem exactViolation?_eq_some_iff :
    clues.exactViolation? letters = some violation ↔
      violation.kind = .exact ∧ clues.FirstOfKind letters violation := by
  rw [exactViolation?, findSome?_toList_eq_some_iff]
  constructor
  · rintro ⟨position, letter, hentry, hfound, hlower⟩
    simp only [Option.ite_none_left_eq_some, Option.some_inj] at hfound
    obtain ⟨hletter, rfl⟩ := hfound
    refine ⟨rfl, ?_, ?_⟩
    · intro hexact
      exact hletter (hexact letter hentry)
    · intro lower hlt other hother
      simpa using hlower lower (Nat.compare_eq_lt.mpr hlt) other hother
  · rintro ⟨hkind, hfirst⟩
    cases violation with
    | exact position =>
        obtain ⟨hviolated, hlower⟩ := hfirst
        simp only [ExactAt, not_forall] at hviolated
        obtain ⟨letter, hentry, hletter⟩ := hviolated
        refine ⟨position, letter, hentry, if_neg hletter, ?_⟩
        intro lower hlt other hother
        exact if_pos (hlower lower (Nat.compare_eq_lt.mp hlt) other hother)
    | length | absent | missing | misplaced => cases hkind

theorem absentViolation?_eq_none_iff :
    clues.absentViolation? letters = none ↔ clues.Meets letters .absent := by
  simp [absentViolation?, Meets]

theorem absentViolation?_eq_some_iff :
    clues.absentViolation? letters = some violation ↔
      violation.kind = .absent ∧ clues.FirstOfKind letters violation := by
  rw [absentViolation?, Option.map_eq_some_iff]
  constructor
  · rintro ⟨letter, hfound, rfl⟩
    simpa [List.find?_eq_some_iff_append, Violation.kind, FirstOfKind] using hfound
  · rintro ⟨hkind, hfirst⟩
    cases violation with
    | absent letter =>
        refine ⟨letter, ?_, rfl⟩
        simpa [List.find?_eq_some_iff_append, FirstOfKind] using hfirst
    | length | exact | missing | misplaced => cases hkind

def letterViolation? (letters : List Char) (letter : Char) (excluded : List Nat) :
    Option Violation :=
  if letters.contains letter then
    (excluded.find? fun position => letters[position]? = some letter).map (.misplaced letter)
  else some (.missing letter)

theorem presentViolation?_eq (letters : List Char) :
    clues.presentViolation? letters =
      clues.present.toList.findSome? fun (letter, excluded) =>
        letterViolation? letters letter excluded := rfl

theorem kind_of_letterViolation? {letter : Char} {excluded : List Nat}
    (h : letterViolation? letters letter excluded = some violation) :
    violation.kind = .present := by
  unfold letterViolation? at h
  split at h
  · obtain ⟨position, -, rfl⟩ := Option.map_eq_some_iff.mp h
    rfl
  · rw [← Option.some.inj h, Violation.kind]

theorem letterViolation?_eq_none_iff {letter : Char} {excluded : List Nat} :
    letterViolation? letters letter excluded = none ↔
      letter ∈ letters ∧ ∀ position ∈ excluded, letters[position]? ≠ some letter := by
  by_cases hmem : letter ∈ letters <;> simp [letterViolation?, hmem]

theorem letterViolation?_eq_missing_iff {letter other : Char} {excluded : List Nat} :
    letterViolation? letters letter excluded = some (.missing other) ↔
      letter = other ∧ letter ∉ letters := by
  by_cases hmem : letter ∈ letters <;> simp [letterViolation?, hmem]

theorem letterViolation?_eq_misplaced_iff {letter other : Char} {excluded : List Nat}
    {position : Nat} :
    letterViolation? letters letter excluded = some (.misplaced other position) ↔
      letter = other ∧ letter ∈ letters ∧ letters[position]? = some letter ∧
        ∃ before after, excluded = before ++ position :: after ∧
          ∀ earlier ∈ before, letters[earlier]? ≠ some letter := by
  by_cases hmem : letter ∈ letters
  · simp [letterViolation?, hmem, List.find?_eq_some_iff_append, and_comm]
  · simp [letterViolation?, hmem]

theorem presentViolation?_eq_none_iff :
    clues.presentViolation? letters = none ↔ clues.Meets letters .present := by
  simp [presentViolation?_eq, letterViolation?_eq_none_iff, Meets, PresentAt]

theorem presentViolation?_eq_some_iff :
    clues.presentViolation? letters = some violation ↔
      violation.kind = .present ∧ clues.FirstOfKind letters violation := by
  rw [presentViolation?_eq, findSome?_toList_eq_some_iff]
  constructor
  · rintro ⟨letter, excluded, hentry, hfound, hlower⟩
    have hkind := kind_of_letterViolation? hfound
    refine ⟨hkind, ?_⟩
    have hpresent : ∀ lower < letter, clues.PresentAt letters lower := by
      intro lower hlt other hother
      exact letterViolation?_eq_none_iff.mp (hlower lower (compare_lt_iff_lt.mpr hlt) other hother)
    cases violation with
    | missing other =>
        obtain ⟨rfl, hmissing⟩ := letterViolation?_eq_missing_iff.mp hfound
        exact ⟨by simp [hentry], hmissing, hpresent⟩
    | misplaced other position =>
        obtain ⟨rfl, hmem, hposition, before, after, rfl, hbefore⟩ :=
          letterViolation?_eq_misplaced_iff.mp hfound
        exact ⟨hmem, hposition, ⟨before, after, hentry, hbefore⟩, hpresent⟩
    | length | exact | absent => cases hkind
  · rintro ⟨hkind, hfirst⟩
    have hnone {letter : Char} (hpresent : ∀ lower < letter, clues.PresentAt letters lower) :
        ∀ lower, compare lower letter = .lt → ∀ other, clues.present[lower]? = some other →
          letterViolation? letters lower other = none := by
      intro lower hlt other hother
      exact letterViolation?_eq_none_iff.mpr (hpresent lower (compare_lt_iff_lt.mp hlt) other hother)
    cases violation with
    | missing letter =>
        obtain ⟨hentry, hmissing, hpresent⟩ := hfirst
        obtain ⟨excluded, hexcluded⟩ := Option.ne_none_iff_exists'.mp hentry
        refine ⟨letter, excluded, hexcluded, ?_, hnone hpresent⟩
        exact letterViolation?_eq_missing_iff.mpr ⟨rfl, hmissing⟩
    | misplaced letter position =>
        obtain ⟨hmem, hposition, ⟨before, after, hentry, hbefore⟩, hpresent⟩ := hfirst
        refine ⟨letter, _, hentry, ?_, hnone hpresent⟩
        exact letterViolation?_eq_misplaced_iff.mpr
          ⟨rfl, hmem, hposition, before, after, rfl, hbefore⟩
    | length | exact | absent => cases hkind

end Checks

/-! ## The verdict -/

theorem forall_kind_iff {p : Violation.Kind → Prop} :
    (∀ kind, p kind) ↔ p .length ∧ p .exact ∧ p .absent ∧ p .present := by
  constructor
  · intro h
    exact ⟨h _, h _, h _, h _⟩
  · rintro ⟨hlength, hexact, habsent, hpresent⟩ kind
    cases kind <;> assumption

section Verdict

variable (clues : Clues) (word : String)

def capitals : List Char :=
  word.toList.map Char.toUpper

theorem violation?_eq :
    clues.violation? word =
      if (capitals word).length = clues.length then
        (clues.exactViolation? (capitals word)).or
          ((clues.absentViolation? (capitals word)).or
            (clues.presentViolation? (capitals word)))
      else some (.length (capitals word).length) := by
  unfold capitals violation?
  simp

theorem violation?_eq_none_iff :
    clues.violation? word = none ↔ ∀ kind, clues.Meets (capitals word) kind := by
  rw [violation?_eq, forall_kind_iff]
  by_cases hlength : (capitals word).length = clues.length
  · simp [hlength, exactViolation?_eq_none_iff, absentViolation?_eq_none_iff,
      presentViolation?_eq_none_iff, Meets]
  · simp [hlength, Meets]

theorem violation?_eq_some_iff (violation : Violation) :
    clues.violation? word = some violation ↔
      (∀ kind, kind.rank < violation.kind.rank → clues.Meets (capitals word) kind) ∧
        clues.FirstOfKind (capitals word) violation := by
  rw [violation?_eq, forall_kind_iff]
  by_cases hlength : (capitals word).length = clues.length
  · have hmeets : clues.Meets (capitals word) .length := hlength
    simp only [if_pos hlength, Option.or_eq_some_iff, exactViolation?_eq_none_iff,
      exactViolation?_eq_some_iff, absentViolation?_eq_none_iff, absentViolation?_eq_some_iff,
      presentViolation?_eq_some_iff]
    cases violation with
    | length actual =>
        have hnot : ¬ clues.FirstOfKind (capitals word) (.length actual) := by
          rintro ⟨hactual, hother⟩
          exact hother (hactual.symm.trans hlength)
        simp [hnot]
    | exact | absent | missing | misplaced =>
        simp [Violation.kind, Violation.Kind.rank, hmeets, and_assoc]
  · have hviolated : ¬ clues.Meets (capitals word) .length := hlength
    rw [if_neg hlength, Option.some_inj]
    cases violation with
    | length actual =>
        have hactual : (capitals word).length = actual → actual ≠ clues.length := by
          rintro rfl
          exact hlength
        simpa [Violation.kind, Violation.Kind.rank, FirstOfKind] using hactual
    | exact | absent | missing | misplaced =>
        simp [Violation.kind, Violation.Kind.rank, hviolated]

theorem capitals_eq_of_lower_eq {word other : String}
    (h : other.toList.map Char.toLower = word.toList.map Char.toLower) :
    capitals other = capitals word := by
  have hraised (s : List Char) : s.map Char.toUpper = (s.map Char.toLower).map Char.toUpper := by
    simp
  rw [capitals, capitals, hraised, h, ← hraised]

theorem violation?_eq_of_capitals_eq {word other : String} (h : capitals other = capitals word) :
    clues.violation? other = clues.violation? word := by
  rw [violation?_eq, violation?_eq, h]

/--
A word fits exactly if it meets the clues of every kind.  Otherwise it is turned away for the first
clue of its kind that it violates, and it meets the clues of every kind before.  It does not matter
which of its letters from A to Z are small.
-/
theorem violation?_is_first :
    (clues.violation? word = none ↔ ∀ kind, clues.Meets (capitals word) kind) ∧
      (∀ violation, clues.violation? word = some violation ↔
        (∀ kind, kind.rank < violation.kind.rank → clues.Meets (capitals word) kind) ∧
          clues.FirstOfKind (capitals word) violation) ∧
      ∀ other : String, other.toList.map Char.toLower = word.toList.map Char.toLower →
        clues.violation? other = clues.violation? word := by
  refine ⟨clues.violation?_eq_none_iff word, clues.violation?_eq_some_iff word, ?_⟩
  intro other hsame
  exact clues.violation?_eq_of_capitals_eq (capitals_eq_of_lower_eq hsame)

end Verdict

end Clues

end WordHunt
