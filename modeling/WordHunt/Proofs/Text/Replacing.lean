import Mathlib.Data.List.Infix
import WordHunt.Proofs.Text.Scan

/-!
# Replacing a mark

A mark that is opened by a character which it has nowhere else cannot overlap itself.  So a text
has one way to be cut at the mark, and replacing the mark puts the new text between the pieces.
-/

namespace WordHunt.Text

/-- A mark begins with a character that does not come again in it. -/
def OpensWith (first : Char) (mark : List Char) : Prop :=
  ∃ rest, mark = first :: rest ∧ first ∉ rest

/-- A text cut wherever a mark occurs in it: the mark stands between the pieces and in none. -/
structure IsCut (mark : List Char) (pieces : List (List Char)) (s : List Char) : Prop where
  whole : mark.intercalate pieces = s
  ne_nil : pieces ≠ []
  unmarked : ∀ piece ∈ pieces, ¬ mark <:+: piece

variable {first : Char} {mark : List Char} (replacement : List Char)

def markAt? (mark : List Char) : Finder Unit := fun s =>
  if mark.isPrefixOf s then some ((), mark.length) else none

theorem replaceText_eq (s : List Char) :
    replaceText mark replacement s = replaceFinds (markAt? mark) (fun _ => replacement) s := rfl

theorem markAt?_eq_none_iff {s : List Char} : markAt? mark s = none ↔ ¬ mark <+: s := by
  simp [markAt?]

theorem markAt?_append (s : List Char) :
    markAt? mark (mark ++ s) = some ((), mark.length) := by
  simp [markAt?]

/-! ## Pieces -/

theorem intercalate_append {pieces others : List (List Char)} (hne : pieces ≠ [])
    (hothers : others ≠ []) :
    mark.intercalate (pieces ++ others) =
      mark.intercalate pieces ++ mark ++ mark.intercalate others := by
  induction pieces with
  | nil => exact absurd rfl hne
  | cons piece pieces ih =>
      cases pieces with
      | nil =>
          obtain ⟨other, others, rfl⟩ := List.exists_cons_of_ne_nil hothers
          rw [List.singleton_append, List.intercalate_cons_cons, List.intercalate_singleton,
            List.append_assoc]
      | cons next pieces =>
          rw [List.cons_append, List.cons_append, List.intercalate_cons_cons,
            ← List.cons_append, ih (List.cons_ne_nil next pieces), List.intercalate_cons_cons]
          simp only [List.append_assoc]

theorem length_intercalate {pieces : List (List Char)} (hne : pieces ≠ []) :
    (mark.intercalate pieces).length =
      pieces.flatten.length + (pieces.length - 1) * mark.length := by
  induction pieces with
  | nil => exact absurd rfl hne
  | cons piece pieces ih =>
      cases pieces with
      | nil => simp
      | cons next pieces =>
          simp only [List.intercalate_cons_cons, List.length_append,
            ih (List.cons_ne_nil next pieces), List.flatten_cons, List.length_cons,
            Nat.add_sub_cancel, Nat.succ_mul]
          omega

theorem intercalate_inj {pieces : List (List Char)} (htwo : 1 < pieces.length)
    {s t : List Char} : s.intercalate pieces = t.intercalate pieces ↔ s = t := by
  constructor
  · intro h
    have hne : pieces ≠ [] := by
      rintro rfl
      simp at htwo
    have hlength : s.length = t.length := by
      have hboth := congrArg List.length h
      rw [length_intercalate hne, length_intercalate hne, Nat.add_left_cancel_iff] at hboth
      exact Nat.eq_of_mul_eq_mul_left (by omega) hboth
    obtain ⟨piece, pieces, rfl⟩ := List.exists_cons_of_ne_nil hne
    obtain ⟨next, pieces, rfl⟩ := List.exists_cons_of_ne_nil (l := pieces) (by
      rintro rfl
      simp at htwo)
    simp only [List.intercalate_cons_cons, List.append_assoc] at h
    exact (List.append_inj (List.append_cancel_left h) hlength).1
  · rintro rfl
    rfl

theorem IsCut.append {pieces others : List (List Char)} {s t : List Char}
    (hs : IsCut mark pieces s) (ht : IsCut mark others t) :
    IsCut mark (pieces ++ others) (s ++ mark ++ t) where
  whole := by rw [intercalate_append hs.ne_nil ht.ne_nil, hs.whole, ht.whole]
  ne_nil := by simp [hs.ne_nil]
  unmarked piece hpiece := by
    rcases List.mem_append.mp hpiece with hpiece | hpiece
    · exact hs.unmarked piece hpiece
    · exact ht.unmarked piece hpiece

theorem exists_isCut (hmark : mark ≠ []) (s : List Char) : ∃ pieces, IsCut mark pieces s := by
  induction hlength : s.length using Nat.strongRecOn generalizing s with
  | ind length ih =>
      by_cases hoccurs : mark <:+: s
      · obtain ⟨before, after, rfl⟩ := hoccurs
        have hpos := List.length_pos_iff.mpr hmark
        simp only [List.length_append] at hlength
        obtain ⟨pieces, hpieces⟩ := ih before.length (by omega) before rfl
        obtain ⟨others, hothers⟩ := ih after.length (by omega) after rfl
        exact ⟨pieces ++ others, hpieces.append hothers⟩
      · exact ⟨[s], List.intercalate_singleton, List.cons_ne_nil s [], by simpa using hoccurs⟩

theorem IsCut.one_lt_length {pieces : List (List Char)} {s : List Char}
    (h : IsCut mark pieces s) (hs : mark <:+: s) : 1 < pieces.length := by
  obtain ⟨rfl, hne, hunmarked⟩ := h
  obtain ⟨piece, pieces, rfl⟩ := List.exists_cons_of_ne_nil hne
  cases pieces with
  | nil => exact absurd (by simpa using hs) (hunmarked piece List.mem_cons_self)
  | cons next pieces => simp

/-! ## Marks do not overlap -/

namespace OpensWith

variable (hmark : OpensWith first mark)
include hmark

theorem ne_nil : mark ≠ [] := by
  obtain ⟨rest, rfl, -⟩ := hmark
  exact List.cons_ne_nil first rest

theorem startsWith : StartsWith first (markAt? mark) := by
  obtain ⟨rest, rfl, -⟩ := hmark
  intro c s hc
  rw [markAt?_eq_none_iff, List.cons_prefix_cons]
  exact fun h => hc h.1.symm

theorem passes {s t : List Char} (hs : ¬ mark <:+: s) (ht : t = [] ∨ t.head? = some first) :
    Passes (markAt? mark) s t := by
  induction s with
  | nil => trivial
  | cons c s ih =>
      refine ⟨?_, ih fun h => hs (h.trans (List.suffix_cons c s).isInfix)⟩
      rw [markAt?_eq_none_iff]
      rintro ⟨after, hafter⟩
      rw [← List.cons_append] at hafter
      rcases List.append_eq_append_iff.mp hafter with ⟨_, hinside, -⟩ | ⟨beyond, hmarkEnds, hnext⟩
      · exact hs ⟨[], _, hinside.symm⟩
      · -- What lies behind `s` begins with the opening, which the mark has at its head only.
        obtain ⟨rest, hrest, hnotMem⟩ := hmark
        cases beyond with
        | nil => exact hs ⟨[], [], by simpa using hmarkEnds⟩
        | cons opening beyond =>
            obtain rfl : opening = first := by simpa [hnext] using ht
            obtain ⟨-, rfl⟩ : opening = c ∧ rest = s ++ opening :: beyond := by
              simpa using hrest.symm.trans hmarkEnds
            exact hnotMem (by simp)

theorem replaceText_append (s : List Char) :
    replaceText mark replacement (mark ++ s) = replacement ++ replaceText mark replacement s :=
  replaceFinds_append_of_some _ hmark.ne_nil (markAt?_append s)

theorem replaceText_of_unmarked {s : List Char} (hs : ¬ mark <:+: s) :
    replaceText mark replacement s = s := by
  simpa [replaceText_eq] using
    replaceFinds_append_of_passes (fun _ => replacement) (hmark.passes hs (.inl rfl))

theorem replaceText_piece {piece : List Char} (hpiece : ¬ mark <:+: piece) (s : List Char) :
    replaceText mark replacement (piece ++ (mark ++ s)) =
      piece ++ (replacement ++ replaceText mark replacement s) := by
  rw [← hmark.replaceText_append]
  refine replaceFinds_append_of_passes _ (hmark.passes hpiece (.inr ?_))
  obtain ⟨rest, rfl, -⟩ := hmark
  rfl

theorem replaceText_of_isCut {pieces : List (List Char)} {s : List Char}
    (h : IsCut mark pieces s) :
    replaceText mark replacement s = replacement.intercalate pieces := by
  obtain ⟨rfl, hne, hunmarked⟩ := h
  induction pieces with
  | nil => exact absurd rfl hne
  | cons piece pieces ih =>
      rw [List.forall_mem_cons] at hunmarked
      cases pieces with
      | nil =>
          rw [List.intercalate_singleton, List.intercalate_singleton,
            hmark.replaceText_of_unmarked replacement hunmarked.1]
      | cons next pieces =>
          rw [List.intercalate_cons_cons, List.intercalate_cons_cons, List.append_assoc,
            hmark.replaceText_piece replacement hunmarked.1,
            ih (List.cons_ne_nil next pieces) hunmarked.2, List.append_assoc]

theorem replaceText_append_of_head (s : List Char) {t : List Char}
    (ht : t = [] ∨ t.head? = some first) :
    replaceText mark replacement (s ++ t) =
      replaceText mark replacement s ++ replaceText mark replacement t := by
  obtain ⟨pieces, hcut⟩ := exists_isCut hmark.ne_nil s
  rw [hmark.replaceText_of_isCut replacement hcut]
  obtain ⟨rfl, hne, hunmarked⟩ := hcut
  induction pieces with
  | nil => exact absurd rfl hne
  | cons piece pieces ih =>
      rw [List.forall_mem_cons] at hunmarked
      cases pieces with
      | nil =>
          rw [List.intercalate_singleton, List.intercalate_singleton]
          exact replaceFinds_append_of_passes _ (hmark.passes hunmarked.1 ht)
      | cons next pieces =>
          have hrest := ih (List.cons_ne_nil next pieces) hunmarked.2
          simp only [List.intercalate_cons_cons, List.append_assoc] at hrest ⊢
          rw [hmark.replaceText_piece replacement hunmarked.1, hrest]

theorem replaceText_inj {s : List Char} (hs : mark <:+: s) {value other : List Char} :
    replaceText mark value s = replaceText mark other s ↔ value = other := by
  obtain ⟨pieces, hcut⟩ := exists_isCut hmark.ne_nil s
  rw [hmark.replaceText_of_isCut value hcut, hmark.replaceText_of_isCut other hcut,
    intercalate_inj (hcut.one_lt_length hs)]

theorem infix_replaceText {s : List Char} (hs : mark <:+: s) :
    replacement <:+: replaceText mark replacement s := by
  obtain ⟨before, after, rfl⟩ := hs
  have hhead : (mark ++ after).head? = some first := by
    obtain ⟨rest, rfl, -⟩ := hmark
    rfl
  rw [List.append_assoc, hmark.replaceText_append_of_head replacement before (.inr hhead),
    hmark.replaceText_append, ← List.append_assoc]
  exact List.infix_append _ _ _

theorem infix_replaceText_of_passes {other s : List Char} (hother : OpensWith first other)
    (hpasses : ∀ t, Passes (markAt? mark) other t) (hs : other <:+: s) :
    other <:+: replaceText mark replacement s := by
  obtain ⟨before, after, rfl⟩ := hs
  have hhead : (other ++ after).head? = some first := by
    obtain ⟨rest, rfl, -⟩ := hother
    rfl
  rw [List.append_assoc, hmark.replaceText_append_of_head replacement before (.inr hhead),
    replaceText_eq, replaceText_eq, replaceFinds_append_of_passes _ (hpasses after),
    ← List.append_assoc]
  exact List.infix_append _ _ _

end OpensWith

end WordHunt.Text
