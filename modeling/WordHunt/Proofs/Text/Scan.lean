import WordHunt.Text.Scan

/-!
# Scanning step by step

A scan passes over the characters at which nothing is found, takes each find as a whole, and goes
on behind it as if it had begun there.
-/

namespace WordHunt.Text

variable {α : Type} {find : Finder α}

/-! ## Pieces -/

theorem scanOnto_eq (done : List (Piece α)) (skip : Nat) (s : List Char) :
    scanOnto find done skip s = done.reverse ++ scanOnto find [] skip s := by
  induction s generalizing done skip with
  | nil => cases skip <;> simp [scanOnto]
  | cons c s ih =>
      cases skip with
      | succ skip => rw [scanOnto, scanOnto, ih]
      | zero =>
          rw [scanOnto, scanOnto]
          cases find (c :: s) with
          | none => simp only [ih (.plain c :: done), ih [.plain c]]; simp
          | some found => simp only [ih (.found found.1 :: done), ih [.found found.1]]; simp

theorem scanOnto_append (skipped s : List Char) :
    scanOnto find [] skipped.length (skipped ++ s) = scan find s := by
  induction skipped with
  | nil => rfl
  | cons c skipped ih => rw [List.length_cons, List.cons_append, scanOnto, ih]

theorem scan_cons_of_none {c : Char} {s : List Char} (h : find (c :: s) = none) :
    scan find (c :: s) = .plain c :: scan find s := by
  rw [scan, scanOnto, h]
  exact scanOnto_eq [.plain c] 0 s

theorem scan_append_of_some {a : α} {piece s : List Char} (hpiece : piece ≠ [])
    (h : find (piece ++ s) = some (a, piece.length)) :
    scan find (piece ++ s) = .found a :: scan find s := by
  obtain ⟨c, rest, rfl⟩ := List.exists_cons_of_ne_nil hpiece
  rw [scan, List.cons_append, scanOnto, ← List.cons_append, h]
  simp only [List.length_cons, Nat.add_sub_cancel]
  rw [scanOnto_eq, scanOnto_append]
  rfl

/-! ## Passing over -/

/-- Nothing is found that starts in `s` when `t` follows. -/
def Passes (find : Finder α) : (s t : List Char) → Prop
  | [], _ => True
  | c :: s, t => find (c :: (s ++ t)) = none ∧ Passes find s t

theorem passes_append {s t u : List Char} :
    Passes find (s ++ t) u ↔ Passes find s (t ++ u) ∧ Passes find t u := by
  induction s with
  | nil => simp [Passes]
  | cons c s ih => simp only [List.cons_append, Passes, ih, List.append_assoc, and_assoc]

theorem scan_append_of_passes {s t : List Char} (h : Passes find s t) :
    scan find (s ++ t) = s.map .plain ++ scan find t := by
  induction s with
  | nil => rfl
  | cons c s ih =>
      rw [List.cons_append, scan_cons_of_none h.1, ih h.2]
      rfl

def StartsWith (first : Char) (find : Finder α) : Prop :=
  ∀ c s, c ≠ first → find (c :: s) = none

section StartsWith

variable {first : Char} (hfind : StartsWith first find)
include hfind

theorem StartsWith.passes {s : List Char} (hs : first ∉ s) (t : List Char) :
    Passes find s t := by
  induction s with
  | nil => trivial
  | cons c s ih =>
      rw [List.mem_cons, not_or] at hs
      exact ⟨hfind c _ (Ne.symm hs.1), ih hs.2⟩

theorem StartsWith.passes_cons {s t : List Char} (hs : first ∉ s)
    (h : find (first :: (s ++ t)) = none) : Passes find (first :: s) t :=
  ⟨h, hfind.passes hs t⟩

end StartsWith

/-! ## Replacing and collecting -/

variable (replacement : α → List Char)

@[simp] theorem replaceFinds_nil : replaceFinds find replacement [] = [] := rfl

theorem replaceFinds_append_of_passes {s t : List Char} (h : Passes find s t) :
    replaceFinds find replacement (s ++ t) = s ++ replaceFinds find replacement t := by
  rw [replaceFinds, scan_append_of_passes h, List.flatMap_append, ← replaceFinds,
    List.flatMap_map, List.flatMap_singleton']

theorem replaceFinds_append_of_some {a : α} {piece s : List Char} (hpiece : piece ≠ [])
    (h : find (piece ++ s) = some (a, piece.length)) :
    replaceFinds find replacement (piece ++ s) =
      replacement a ++ replaceFinds find replacement s := by
  rw [replaceFinds, scan_append_of_some hpiece h, List.flatMap_cons]
  rfl

theorem filter_flatMap_scanOnto_sublist {p : Char → Bool} {shown : Piece α → List Char}
    (hplain : ∀ c, shown (.plain c) = [c]) (hfound : ∀ a, (shown (.found a)).filter p = [])
    (skip : Nat) (s : List Char) :
    (((scanOnto find [] skip s).flatMap shown).filter p).Sublist s := by
  induction s generalizing skip with
  | nil => cases skip <;> simp [scanOnto]
  | cons c s ih =>
      cases skip with
      | succ skip => exact (ih skip).cons c
      | zero =>
          rw [scanOnto]
          cases find (c :: s) with
          | none =>
              have hfirst : ([c].filter p).Sublist [c] := List.filter_sublist
              simp only [scanOnto_eq [.plain c], List.reverse_singleton, List.flatMap_append,
                List.flatMap_singleton, List.filter_append, hplain]
              exact hfirst.append (ih 0)
          | some found =>
              simp only [scanOnto_eq [.found found.1], List.reverse_singleton,
                List.flatMap_append, List.flatMap_singleton, List.filter_append, hfound,
                List.nil_append]
              exact (ih (found.2 - 1)).cons c

theorem filter_replaceFinds_sublist {p : Char → Bool} (h : ∀ a, (replacement a).filter p = [])
    (s : List Char) : ((replaceFinds find replacement s).filter p).Sublist s :=
  filter_flatMap_scanOnto_sublist (fun _ => rfl) h 0 s

theorem finds_append_of_passes {s t : List Char} (h : Passes find s t) :
    finds find (s ++ t) = finds find t := by
  induction s with
  | nil => rfl
  | cons c s ih =>
      rw [← ih h.2, List.cons_append, finds, scan_cons_of_none h.1]
      rfl

theorem finds_append_of_some {a : α} {piece s : List Char} (hpiece : piece ≠ [])
    (h : find (piece ++ s) = some (a, piece.length)) :
    finds find (piece ++ s) = a :: finds find s := by
  rw [finds, scan_append_of_some hpiece h]
  rfl

/-! ## Cutting -/

theorem cutAt?_append {stop : Char} {s : List Char} (hs : stop ∉ s) (t : List Char) :
    cutAt? stop (s ++ stop :: t) = some (s, t) := by
  have hpos : ∀ c ∈ s, decide (c ≠ stop) = true := fun c hc =>
    decide_eq_true fun heq => hs (heq ▸ hc)
  rw [cutAt?, List.dropWhile_append_of_pos hpos, List.takeWhile_append_of_pos hpos]
  simp

theorem eq_append_of_cutAt? {stop : Char} {s before after : List Char}
    (h : cutAt? stop s = some (before, after)) : s = before ++ stop :: after := by
  rw [cutAt?] at h
  split at h
  · contradiction
  · next c rest hdrop =>
    have hhead := List.head?_dropWhile_not (· ≠ stop) s
    rw [hdrop] at hhead
    obtain rfl : c = stop := by simpa using hhead
    cases h
    rw [← hdrop, List.takeWhile_append_dropWhile]

/-! ## First places -/

section FirstPlace

theorem getLast?_cons_or (c : Char) (s : List Char) (before : Option Char) :
    (c :: s).getLast?.or before = s.getLast?.or (some c) := by
  rw [List.getLast?_cons]
  cases s.getLast? <;> rfl

variable {test : Option Char → List Char → Option α}

theorem findPlace_eq_none_iff {before : Option Char} {s : List Char} :
    findPlace test before s = none ↔
      ∀ first rest, s = first ++ rest → test (first.getLast?.or before) rest = none := by
  induction s generalizing before with
  | nil => simp [findPlace]
  | cons c s ih =>
      rw [findPlace]
      constructor
      · intro h first rest hsplit
        split at h
        · contradiction
        · rename_i hhere
          cases first with
          | nil =>
              obtain rfl : c :: s = rest := hsplit
              exact hhere
          | cons head first =>
              obtain ⟨rfl, hrest⟩ := List.cons.inj hsplit
              rw [getLast?_cons_or]
              exact ih.mp h first rest hrest
      · intro h
        have hhere : test before (c :: s) = none := h [] (c :: s) rfl
        rw [hhere]
        refine ih.mpr fun first rest hsplit => ?_
        rw [← getLast?_cons_or c first before]
        exact h (c :: first) rest (by rw [hsplit, List.cons_append])

theorem findPlace_eq_some_iff {before : Option Char} {s : List Char} {a : α} :
    findPlace test before s = some a ↔
      ∃ first rest, s = first ++ rest ∧ test (first.getLast?.or before) rest = some a ∧
        ∀ shorter longer, s = shorter ++ longer → shorter.length < first.length →
          test (shorter.getLast?.or before) longer = none := by
  induction s generalizing before with
  | nil =>
      constructor
      · intro h
        exact ⟨[], [], rfl, h, by simp⟩
      · rintro ⟨first, rest, hsplit, hfound, -⟩
        obtain ⟨rfl, rfl⟩ := List.append_eq_nil_iff.mp hsplit.symm
        exact hfound
  | cons c s ih =>
      rw [findPlace]
      cases hhere : test before (c :: s) with
      | some found =>
          constructor
          · intro h
            exact ⟨[], c :: s, rfl, hhere.trans h, by simp⟩
          · rintro ⟨first, rest, hsplit, hfound, hnone⟩
            cases first with
            | nil =>
                obtain rfl : c :: s = rest := hsplit
                exact hhere.symm.trans hfound
            | cons head first =>
                have hcontra : test before (c :: s) = none := hnone [] (c :: s) rfl (by simp)
                rw [hhere] at hcontra
                contradiction
      | none =>
          refine ih.trans ⟨?_, ?_⟩
          · rintro ⟨first, rest, hsplit, hfound, hnone⟩
            refine ⟨c :: first, rest, by rw [hsplit, List.cons_append], ?_, ?_⟩
            · rwa [getLast?_cons_or]
            · intro shorter longer hother hlength
              cases shorter with
              | nil =>
                  obtain rfl : c :: s = longer := hother
                  exact hhere
              | cons head shorter =>
                  obtain ⟨rfl, hrest⟩ := List.cons.inj hother
                  rw [getLast?_cons_or]
                  exact hnone shorter longer hrest (by simpa using hlength)
          · rintro ⟨first, rest, hsplit, hfound, hnone⟩
            cases first with
            | nil =>
                obtain rfl : c :: s = rest := hsplit
                exact absurd (hhere.symm.trans hfound) (by simp)
            | cons head first =>
                obtain ⟨rfl, hrest⟩ := List.cons.inj hsplit
                refine ⟨first, rest, hrest, by rwa [getLast?_cons_or] at hfound, ?_⟩
                intro shorter longer hother hlength
                rw [← getLast?_cons_or c shorter before]
                exact hnone (c :: shorter) longer (by rw [hother, List.cons_append])
                  (by simpa using hlength)

end FirstPlace

end WordHunt.Text
