import WordHunt.Proofs.Text.Capitals

/-!
# The longest runs of capitals

A text divides in one way only into runs of capitals and the gaps around them.  Together the runs
hold the capitals of the text, in their order.
-/

namespace WordHunt.Text

inductive Runs : List Char → List (List Char) → Prop
  | none {gap : List Char} : gap.any isCapital = false → Runs gap []
  | cons {gap run rest : List Char} {runs : List (List Char)} :
      gap.any isCapital = false → IsCapitals run → run ≠ [] →
      rest.head?.any isCapital = false → Runs rest runs →
      Runs (gap ++ (run ++ rest)) (run :: runs)

namespace Runs

variable {s : List Char} {runs : List (List Char)}

theorem capitalRuns_eq (h : Runs s runs) : capitalRuns s = runs := by
  induction h with
  | @none gap hgap =>
      rw [← gap.append_nil, capitalRuns_append_of_not_capital hgap]
      rfl
  | @cons gap run rest runs hgap hrun hne hend hrest ih =>
      rw [capitalRuns_append_of_not_capital hgap, ← ih]
      cases rest with
      | nil =>
          rw [List.append_nil, capitalRuns_of_isCapitals hrun hne]
          rfl
      | cons c rest =>
          have hc : isCapital c = false := by simpa using hend
          rw [capitalRuns_append_cons _ _ hc, capitalRuns_of_isCapitals hrun hne,
            capitalRuns_cons hc]
          rfl

theorem cons_gap {c : Char} (hc : isCapital c = false) (h : Runs s runs) :
    Runs (c :: s) runs := by
  cases h with
  | none hgap =>
      apply Runs.none
      simp [hc, hgap]
  | @cons gap run rest runs hgap hrun hne hend hrest =>
      have hlonger : (c :: gap).any isCapital = false := by simp [hc, hgap]
      exact Runs.cons hlonger hrun hne hend hrest

theorem exists_cons_capital {c : Char} (hc : isCapital c = true) (h : Runs s runs) :
    ∃ runs, Runs (c :: s) runs := by
  have halone {s : List Char} {runs : List (List Char)} (hs : s.head?.any isCapital = false)
      (h : Runs s runs) : Runs (c :: s) ([c] :: runs) := by
    have hletter : IsCapitals [c] := by simpa [IsCapitals] using hc
    exact @Runs.cons [] [c] s runs rfl hletter (by simp) hs h
  cases h with
  | none hgap =>
      refine ⟨_, halone ?_ (Runs.none hgap)⟩
      cases s <;> simp_all
  | @cons gap run rest runs hgap hrun hne hend hrest =>
      cases gap with
      | nil =>
          have hlonger : IsCapitals (c :: run) := by
            simpa [IsCapitals, hc] using hrun
          exact ⟨_, @Runs.cons [] (c :: run) rest _ rfl hlonger (by simp) hend hrest⟩
      | cons first gap =>
          refine ⟨_, halone ?_ (Runs.cons hgap hrun hne hend hrest)⟩
          simp_all

theorem flatten_eq (h : Runs s runs) : runs.flatten = s.filter isCapital := by
  induction h with
  | none hgap =>
      rw [List.flatten_nil, eq_comm]
      simpa using hgap
  | @cons gap run rest runs hgap hrun hne hend hrest ih =>
      have hgap : gap.filter isCapital = [] := by simpa using hgap
      rw [List.flatten_cons, ih, List.filter_append, List.filter_append, hgap,
        List.filter_eq_self.mpr hrun, List.nil_append]

end Runs

theorem runs_capitalRuns (s : List Char) : Runs s (capitalRuns s) := by
  have hexists : ∃ runs, Runs s runs := by
    induction s with
    | nil => exact ⟨[], Runs.none rfl⟩
    | cons c s ih =>
        obtain ⟨runs, hruns⟩ := ih
        cases hc : isCapital c with
        | false => exact ⟨runs, hruns.cons_gap hc⟩
        | true => exact hruns.exists_cons_capital hc
  obtain ⟨runs, hruns⟩ := hexists
  rw [hruns.capitalRuns_eq]
  exact hruns

end WordHunt.Text
