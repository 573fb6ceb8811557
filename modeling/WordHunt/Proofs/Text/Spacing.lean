import WordHunt.Proofs.Text.UpperAgain

/-!
# Runs of blanks

A text is collapsed when each run of blanks in it has become one space.  Collapsing passes over
everything that is visible, so a text may be trimmed, or cut at a visible character, before or
after.
-/

namespace WordHunt.Text

def collapse : List Char → List Char
  | [] => []
  | c :: s =>
      if isBlank c then
        -- The last blank of a run stands for all of it.
        if s.head?.any isBlank then collapse s else ' ' :: collapse s
      else c :: collapse s

theorem isBlank_space : isBlank ' ' = true := by decide

@[simp] theorem collapse_nil : collapse [] = [] := rfl

theorem collapse_cons_eq (c : Char) (s : List Char) :
    collapse (c :: s) =
      if isBlank c then if s.head?.any isBlank then collapse s else ' ' :: collapse s
      else c :: collapse s := rfl

theorem collapse_cons {c : Char} (hc : isBlank c = false) (s : List Char) :
    collapse (c :: s) = c :: collapse s := by
  simp [collapse, hc]

theorem collapse_cons_of_isBlank {c : Char} (hc : isBlank c = true) (s : List Char) :
    collapse (c :: s) = ' ' :: collapse (trimStart s) := by
  induction s generalizing c with
  | nil => simp [collapse, hc, trimStart]
  | cons next s ih =>
      by_cases hnext : isBlank next = true
      · have hrun : trimStart (next :: s) = trimStart s := List.dropWhile_cons_of_pos hnext
        rw [collapse, if_pos hc, if_pos (by simpa using hnext), ih hnext, hrun]
      · rw [Bool.not_eq_true] at hnext
        rw [collapse, if_pos hc, if_neg (by simp [hnext]), trimStart_cons hnext]

theorem collapse_append {s t : List Char}
    (h : (∀ c ∈ s.getLast?, isBlank c = false) ∨ ∀ c ∈ t.head?, isBlank c = false) :
    collapse (s ++ t) = collapse s ++ collapse t := by
  induction s with
  | nil => rfl
  | cons c s ih =>
      cases s with
      | nil =>
          cases hc : isBlank c with
          | false => simp [collapse_cons hc]
          | true =>
              -- The run ends here, because what follows is visible.
              have ht : t.head?.any isBlank = false := by
                rcases h with hlast | hhead
                · rw [hlast c rfl] at hc
                  cases hc
                · cases t with
                  | nil => rfl
                  | cons d t => exact hhead d rfl
              simp [collapse, hc, ht]
      | cons d s =>
          have hrest : collapse (d :: (s ++ t)) = collapse (d :: s) ++ collapse t := ih h
          rw [List.cons_append, List.cons_append, collapse_cons_eq c (d :: (s ++ t)),
            collapse_cons_eq c (d :: s), hrest, List.head?_cons, List.head?_cons]
          split
          · split <;> rfl
          · rfl

theorem collapse_of_visible {s : List Char} (h : ∀ c ∈ s, isBlank c = false) : collapse s = s := by
  induction s with
  | nil => rfl
  | cons c s ih =>
      obtain ⟨hc, hs⟩ := List.forall_mem_cons.mp h
      rw [collapse_cons hc, ih hs]

theorem collapse_eq_nil_iff {s : List Char} : collapse s = [] ↔ s = [] := by
  cases s with
  | nil => simp
  | cons c s =>
      cases hc : isBlank c with
      | true => simp [collapse_cons_of_isBlank hc]
      | false => simp [collapse_cons hc]

theorem all_collapse {p : Char → Bool} (h : ∀ c, isBlank c = true → p c = p ' ') (s : List Char) :
    (collapse s).all p = s.all p := by
  induction s with
  | nil => rfl
  | cons c s ih =>
      cases hc : isBlank c with
      | false => rw [collapse_cons hc, List.all_cons, List.all_cons, ih]
      | true =>
          rw [collapse, if_pos hc]
          split
          · next hrun =>
              rw [ih, List.all_cons, h c hc]
              obtain ⟨d, hd, hblank⟩ := (Option.any_eq_true ..).mp hrun
              obtain ⟨t, rfl⟩ := List.head?_eq_some_iff.mp hd
              rw [List.all_cons, h d hblank, ← Bool.and_assoc, Bool.and_self]
          · rw [List.all_cons, List.all_cons, ih, h c hc]

theorem mem_collapse {s : List Char} {c : Char} (hc : isBlank c = false) :
    c ∈ collapse s ↔ c ∈ s := by
  have hother : ∀ d, isBlank d = true → decide (d ≠ c) = decide (' ' ≠ c) := fun d hd => by
    have hne : d ≠ c := by
      rintro rfl
      rw [hc] at hd
      cases hd
    have hspace : ' ' ≠ c := by
      rintro rfl
      exact absurd hc (by decide)
    simp [hne, hspace]
  have hall := all_collapse hother s
  rw [Bool.eq_iff_iff, List.all_eq_true, List.all_eq_true] at hall
  simpa using not_congr hall

/-! ## Trimming and cutting -/

theorem trimStart_collapse (s : List Char) : trimStart (collapse s) = collapse (trimStart s) := by
  have hstart (t : List Char) (ht : ∀ c ∈ t.head?, isBlank c = false) :
      trimStart (collapse t) = collapse t := by
    cases t with
    | nil => rfl
    | cons c t => rw [collapse_cons (ht c rfl), trimStart_cons (ht c rfl)]
  cases s with
  | nil => rfl
  | cons c s =>
      have hhead := isBlank_head_of_trimStart_eq (trimStart_trimStart s)
      cases hc : isBlank c with
      | false => rw [trimStart_cons hc, collapse_cons hc, trimStart_cons hc]
      | true =>
          have hskip (d : Char) (hd : isBlank d = true) (t : List Char) :
              trimStart (d :: t) = trimStart t := List.dropWhile_cons_of_pos hd
          rw [collapse_cons_of_isBlank hc, hskip ' ' isBlank_space, hskip c hc, hstart _ hhead]

theorem isTrimmed_collapse {s : List Char} (h : IsTrimmed s) : IsTrimmed (collapse s) := by
  constructor
  · cases s with
    | nil => exact h.1
    | cons c s =>
        rw [collapse_cons (h.1 c rfl)]
        exact fun d hd => h.1 d hd
  · rcases List.eq_nil_or_concat s with rfl | ⟨s, last, rfl⟩
    · exact h.2
    · have hlast : isBlank last = false := h.2 last (by simp)
      rw [List.concat_eq_append, collapse_append (.inr (by simpa using hlast)), collapse_cons hlast]
      simpa using hlast

theorem isBlank_of_mem_collapse {s : List Char} (h : ∀ c ∈ s, isBlank c = true) :
    ∀ c ∈ collapse s, isBlank c = true := by
  have hall := all_collapse (p := isBlank) (fun c hc => hc.trans isBlank_space.symm) s
  rwa [List.all_eq_true.mpr h, List.all_eq_true] at hall

theorem exists_trim (s : List Char) :
    ∃ first last, (∀ c ∈ first, isBlank c = true) ∧ (∀ c ∈ last, isBlank c = true) ∧
      s = first ++ (trim s ++ last) := by
  obtain ⟨first, hfirst, hs⟩ := exists_trimStart s
  obtain ⟨last, hlast, hend⟩ := exists_trimStart (trimStart s).reverse
  refine ⟨first, last.reverse, hfirst, fun c hc => hlast c (List.mem_reverse.mp hc), ?_⟩
  have hsplit := congrArg List.reverse hend
  rw [List.reverse_reverse, List.reverse_append] at hsplit
  exact hs.trans (congrArg _ hsplit)

theorem trim_eq_of_eq_append {s first middle last : List Char}
    (hfirst : ∀ c ∈ first, isBlank c = true) (hlast : ∀ c ∈ last, isBlank c = true)
    (hmiddle : IsTrimmed middle) (hs : s = first ++ (middle ++ last)) : trim s = middle := by
  rw [hs, trim_append_left hfirst, trim_append_right hlast, hmiddle.trim_eq]

theorem trim_collapse (s : List Char) : trim (collapse s) = collapse (trim s) := by
  obtain ⟨first, last, hfirst, hlast, hs⟩ := exists_trim s
  have htrimmed := isTrimmed_trim s
  generalize trim s = middle at hs htrimmed ⊢
  subst hs
  cases middle with
  | nil =>
      rw [List.nil_append]
      have hblank : ∀ c ∈ first ++ last, isBlank c = true := fun c hc =>
        (List.mem_append.mp hc).elim (hfirst c) (hlast c)
      have hnone := trim_append_left (isBlank_of_mem_collapse hblank) []
      rw [List.append_nil] at hnone
      exact hnone
  | cons c middle =>
      have hhead : ∀ d ∈ (c :: middle ++ last).head?, isBlank d = false := htrimmed.1
      have hsplit : collapse (first ++ (c :: middle ++ last)) =
          collapse first ++ (collapse (c :: middle) ++ collapse last) := by
        rw [collapse_append (.inr hhead), collapse_append (.inl htrimmed.2)]
      exact trim_eq_of_eq_append (isBlank_of_mem_collapse hfirst) (isBlank_of_mem_collapse hlast)
        (isTrimmed_collapse htrimmed) hsplit

theorem collapse_intercalate {separator : Char} (h : isBlank separator = false)
    (pieces : List (List Char)) :
    collapse ([separator].intercalate pieces) = [separator].intercalate (pieces.map collapse) := by
  induction pieces with
  | nil => rfl
  | cons piece pieces ih =>
      cases pieces with
      | nil => simp
      | cons next pieces =>
          rw [List.map_cons, List.map_cons, List.intercalate_cons_cons,
            List.intercalate_cons_cons, ← List.map_cons, ← ih, List.append_assoc, List.append_assoc,
            collapse_append (.inr (by simpa using h)), List.singleton_append,
            List.singleton_append, collapse_cons h]

theorem splitOn_collapse {separator : Char} (h : isBlank separator = false) (s : List Char) :
    (collapse s).splitOn separator = (s.splitOn separator).map collapse := by
  have hpieces : ∀ piece ∈ (s.splitOn separator).map collapse, separator ∉ piece := by
    intro piece hpiece hmem
    obtain ⟨origin, horigin, rfl⟩ := List.mem_map.mp hpiece
    have hfree := not_of_mem_splitOnP horigin separator ((mem_collapse h).mp hmem)
    simp at hfree
  have hne : (s.splitOn separator).map collapse ≠ [] := by
    simp
  conv_lhs => rw [← @List.intercalate_splitOn _ s _ _ separator]
  rw [collapse_intercalate h, List.splitOn_intercalate separator hpieces hne]

/-! ## Upper case -/

theorem trim_upper (s : List Char) : trim (upper s) = upper (trim s) := by
  have hblanks {blanks : List Char} (h : ∀ c ∈ blanks, isBlank c = true) :
      ∀ c ∈ upper blanks, isBlank c = true := by
    intro c hc
    obtain ⟨origin, horigin, hmem⟩ := List.mem_flatMap.mp hc
    rw [upperChar_of_isBlank (h origin horigin)] at hmem
    rw [List.mem_singleton.mp hmem]
    exact h origin horigin
  obtain ⟨first, last, hfirst, hlast, hs⟩ := exists_trim s
  have hsplit := congrArg upper hs
  simp only [upper, List.flatMap_append] at hsplit
  exact trim_eq_of_eq_append (hblanks hfirst) (hblanks hlast) (isTrimmed_upper (isTrimmed_trim s))
    hsplit

end WordHunt.Text
