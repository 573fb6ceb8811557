import Mathlib.Data.List.Flatten
import WordHunt.Page.Words
import WordHunt.Proofs.Text.Runs
import WordHunt.Proofs.Text.Scan

/-!
# The words that a page yields

Whatever a page holds, its words are runs of capitals and have exactly the length asked for.  None
of their letters is made up: markup is only taken away, or gives way to a space.
-/

namespace WordHunt.Page

open Text

theorem mem_wordsIn {length : Nat} {body word : String} :
    word ∈ wordsIn length body ↔
      word.toList ∈ capitalRuns (withoutInvalid (withoutEmphasis body.toList)) ∧
        word.length = length := by
  constructor
  · intro h
    obtain ⟨run, hrun, rfl⟩ := List.mem_map.mp h
    obtain ⟨hmem, hlength⟩ := List.mem_filter.mp hrun
    rw [String.toList_ofList, String.length_ofList]
    exact ⟨hmem, of_decide_eq_true hlength⟩
  · rintro ⟨hmem, hlength⟩
    refine List.mem_map.mpr ⟨word.toList, List.mem_filter.mpr ⟨hmem, ?_⟩, String.ofList_toList⟩
    rw [String.length_toList]
    exact decide_eq_true hlength

theorem isCapitals_of_mem_wordsIn {length : Nat} {body word : String}
    (h : word ∈ wordsIn length body) : IsCapitals word.toList :=
  isCapitals_of_mem_capitalRuns (mem_wordsIn.mp h).1

theorem length_of_mem_wordsIn {length : Nat} {body word : String}
    (h : word ∈ wordsIn length body) : word.length = length :=
  (mem_wordsIn.mp h).2

theorem withoutEmphasis_sublist (s : List Char) : (withoutEmphasis s).Sublist s := by
  have hkept : ((withoutEmphasis s).filter fun _ => true).Sublist s :=
    filter_replaceFinds_sublist _ (fun _ => rfl) s
  simpa using hkept

theorem filter_withoutInvalid_sublist (s : List Char) :
    ((withoutInvalid s).filter isCapital).Sublist s :=
  filter_replaceFinds_sublist _ (fun _ => rfl) s

theorem flatMap_wordsIn_sublist (length : Nat) (body : String) :
    ((wordsIn length body).flatMap String.toList).Sublist body.toList := by
  let marked := withoutEmphasis body.toList
  let runs := capitalRuns (withoutInvalid marked)
  calc (wordsIn length body).flatMap String.toList
      = (runs.filter (·.length = length)).flatten := by
        simp [wordsIn, runs, marked, List.flatMap_map, List.flatMap_id']
    List.Sublist _ runs.flatten := List.filter_sublist.flatten
    _ = (withoutInvalid marked).filter isCapital := (runs_capitalRuns _).flatten_eq
    List.Sublist _ marked := filter_withoutInvalid_sublist marked
    List.Sublist _ body.toList := withoutEmphasis_sublist body.toList

/-- The words of a page, one after the other, are letters of the page in their order. -/
theorem wordsIn_invents_nothing (length : Nat) (body : String) :
    (∀ word ∈ wordsIn length body, word.length = length ∧ IsCapitals word.toList) ∧
      ((wordsIn length body).flatMap String.toList).Sublist body.toList := by
  constructor
  · intro word hword
    exact ⟨length_of_mem_wordsIn hword, isCapitals_of_mem_wordsIn hword⟩
  · exact flatMap_wordsIn_sublist length body

end WordHunt.Page
