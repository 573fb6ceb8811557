import WordHunt.Proofs.Blame
import WordHunt.Proofs.Clues.Meaning
import WordHunt.Proofs.Text.UpperAgain

/-!
# One more line of clues

A line that is put behind a text adds a clue or takes the place of one.  If it takes the place of
none, all clues of the text are still known, so a word that fits the longer text fits the shorter
one as well.  A line of no form changes nothing.
-/

namespace WordHunt

open Text ClueLine

namespace Clues

/-! ## Clues among clues -/

/-- What one knows by these clues, one knows by the others. -/
structure IsAmong (clues more : Clues) : Prop where
  exact : ∀ (position : Nat) (letter : Char), clues.exact[position]? = some letter →
    more.exact[position]? = some letter
  present : ∀ (letter : Char) (positions : List Nat), clues.present[letter]? = some positions →
    more.present[letter]? = some positions
  absent : clues.absent ⊆ more.absent
  length : clues.length = more.length

theorem IsAmong.meets {clues more : Clues} (h : clues.IsAmong more) {letters : List Char}
    {kind : Violation.Kind} (hmeets : more.Meets letters kind) : clues.Meets letters kind := by
  cases kind with
  | length => exact Eq.trans hmeets h.length.symm
  | exact => exact fun position letter hletter => hmeets position letter (h.exact _ _ hletter)
  | absent => exact fun letter hletter => hmeets letter (h.absent hletter)
  | present =>
      exact fun letter positions hpositions => hmeets letter positions (h.present _ _ hpositions)

theorem IsAmong.fits {clues more : Clues} (h : clues.IsAmong more) {word : String}
    (hfits : more.fits word = true) : clues.fits word = true := by
  rw [Clues.fits, Option.isNone_iff_eq_none, violation?_eq_none_iff] at hfits ⊢
  exact fun kind => h.meets (hfits kind)

/-- The clue is about a position or a letter that nothing was known of, and not about the length. -/
structure Admits (clues : Clues) (clue : ClueLine) : Prop where
  exact : ∀ position letter, clue.letterAt? position = some letter → clues.exact[position]? = none
  present : ∀ letter positions, clue.barred? letter = some positions →
    clues.present[letter]? = none
  length : clue.measure? = none

theorem Admits.isAmong_add {clues : Clues} {clue : ClueLine} (h : clues.Admits clue) :
    clues.IsAmong (clues.add clue) where
  exact position letter hletter := by
    rw [exact_add]
    cases hclue : clue.letterAt? position with
    | none => exact hletter
    | some other =>
        rw [h.exact position other hclue] at hletter
        cases hletter
  present letter positions hpositions := by
    rw [present_add]
    cases hclue : clue.barred? letter with
    | none => exact hpositions
    | some others =>
        rw [h.present letter others hclue] at hpositions
        cases hpositions
  absent := by
    rw [absent_add]
    exact List.subset_append_left _ _
  length := by
    have hlength := clues.length_add clue
    rw [h.length, Option.none_or, Option.some_inj] at hlength
    exact hlength.symm

/-! ## A line behind a text -/

/-- The line takes the place of no clue, and it does not measure the word. -/
structure KeptBy (clues : Clues) (line : List Char) : Prop where
  settles : ∀ position letter, Settles line position letter → clues.exact[position]? = none
  excludes : ∀ letter positions, Excludes line letter positions → clues.present[letter]? = none
  measures : ∀ length, ¬ Measures line length

theorem keptBy_iff (text : String) {line : List Char} :
    (ofText text).KeptBy line ↔ ∀ clue, read? line = some clue → (ofText text).Admits clue := by
  constructor
  · intro h clue hread
    have hhear {β : Type} {hear : ClueLine → Option β} {word : β} (hword : hear clue = some word) :
        (read? line).bind hear = some word := by
      rw [hread, Option.bind_some, hword]
    refine ⟨fun position letter hletter => ?_, fun letter positions hpositions => ?_, ?_⟩
    · exact h.settles position letter (letterAt?_read?.mp (hhear hletter)).2
    · exact h.excludes letter positions (barred?_read?.mp (hhear hpositions))
    · refine Option.eq_none_iff_forall_ne_some.mpr fun length hlength => ?_
      exact h.measures length (measure?_read?.mp (hhear hlength))
  · intro h
    refine ⟨fun position letter hline => ?_, fun letter positions hline => ?_,
      fun length hline => ?_⟩
    · -- No letter is settled beyond the highest place.
      refine ((ofText_followFrom text).exact_none_iff position).mpr fun hplace => ?_
      obtain ⟨clue, hread, hletter⟩ :=
        Option.bind_eq_some_iff.mp (letterAt?_read?.mpr ⟨hplace, hline⟩)
      exact ((ofText_followFrom text).exact_none_iff position).mp
        ((h clue hread).exact position letter hletter) hplace
    · obtain ⟨clue, hread, hpositions⟩ := Option.bind_eq_some_iff.mp (barred?_read?.mpr hline)
      exact (h clue hread).present letter positions hpositions
    · obtain ⟨clue, hread, hlength⟩ := Option.bind_eq_some_iff.mp (measure?_read?.mpr hline)
      rw [(h clue hread).length] at hlength
      cases hlength

theorem ofText_append_line (text : String) {line : String} (hline : '\n' ∉ line.toList) :
    ofText (text ++ "\n" ++ line) = (ofText text).hearLine (upper (trim line.toList)) := by
  have hclean : cleanLines line = [upper (trim line.toList)] := by
    rw [cleanLines, List.splitOn_eq_singleton hline, List.map_singleton]
  rw [ofText_eq_foldl_hearLine, cleanLines_append, List.foldl_append, ← ofText_eq_foldl_hearLine,
    hclean, List.foldl_cons, List.foldl_nil]

/--
One more line that takes the place of no clue and does not measure the word admits no further word,
and a line of none of the forms changes nothing at all.
-/
theorem fits_of_fits_append_line (text : String) {line : String} (hline : '\n' ∉ line.toList) :
    ((ofText text).KeptBy (upper (trim line.toList)) →
      ∀ word, (ofText (text ++ "\n" ++ line)).fits word = true →
        (ofText text).fits word = true) ∧
      (¬ HasForm (upper (trim line.toList)) →
        ofText (text ++ "\n" ++ line) = ofText text) := by
  rw [ofText_append_line text hline, keptBy_iff, hearLine]
  constructor
  · intro hadmits word hfits
    cases hread : read? (upper (trim line.toList)) with
    | none =>
        rw [hread] at hfits
        exact hfits
    | some clue =>
        rw [hread] at hfits
        exact (hadmits clue hread).isAmong_add.fits hfits
  · intro hform
    have htrimmed := isTrimmed_upper (isTrimmed_trim line.toList)
    rw [← isSome_read?_iff htrimmed, Option.not_isSome_iff_eq_none] at hform
    rw [hform, Option.elim_none]

theorem fits_of_fits_append_line_sample :
    let text := "o at 3\nA IN WORD, not at 1"
    let line := " l at\t2"
    let prose := "L at 2, I think"
    '\n' ∉ line.toList ∧ (ofText text).KeptBy (upper (trim line.toList)) ∧
      (ofText (text ++ "\n" ++ line)).fits "cloak" = true ∧ (ofText text).fits "cloak" = true ∧
      '\n' ∉ prose.toList ∧ ¬ HasForm (upper (trim prose.toList)) ∧
      ofText (text ++ "\n" ++ prose) = ofText text := by
  intro text line prose
  have hline : '\n' ∉ line.toList := by decide
  have hprose : '\n' ∉ prose.toList := by decide
  have hread : read? (upper (trim line.toList)) = some (.exact 'L' (some 2)) := by decide +kernel
  have hkept : (ofText text).KeptBy (upper (trim line.toList)) := by
    rw [keptBy_iff, hread]
    rintro clue heq
    cases heq
    refine ⟨fun position letter hletter => ?_, nofun, rfl⟩
    have hplace : position = 1 := by
      simp only [letterAt?, Option.ite_none_right_eq_some, Option.some_inj] at hletter
      omega
    rw [hplace]
    decide +kernel
  have hform : ¬ HasForm (upper (trim prose.toList)) := by
    rw [← isSome_read?_iff (isTrimmed_upper (isTrimmed_trim _))]
    decide +kernel
  have hfits : (ofText (text ++ "\n" ++ line)).fits "cloak" = true := by decide +kernel
  exact ⟨hline, hkept, hfits, (fits_of_fits_append_line text hline).1 hkept "cloak" hfits, hprose,
    hform, (fits_of_fits_append_line text hprose).2 hform⟩

end Clues

end WordHunt
