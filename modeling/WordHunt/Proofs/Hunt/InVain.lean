import WordHunt.Proofs.Hunt.Memory

/-!
# Hunts in vain

A hunt is in vain if it fails or if its report has nothing but a diagnostic.  Such a hunt has ended
before its last stage, the only one that talks to the dictionary and waits between look-ups.  So it
leaves the hunter as it was, and it takes the same course whatever the dictionary is.
-/

namespace WordHunt

variable {σ : Type}

namespace Hunter

def InVain : Except Failure Report → Prop
  | .error _ => True
  | .ok report => report.diagnostic ≠ none

instance (ends : Except Failure Report) : Decidable (InVain ends) :=
  match ends with
  | .error _ => inferInstanceAs (Decidable True)
  | .ok report => inferInstanceAs (Decidable (report.diagnostic ≠ none))

variable {hunter : Hunter} {partner : Partner σ} {state : σ} {task : Task}

theorem exists_ended_of_inVain
    (h : InVain ((hunter.pursue task).hold partner state).value.1) :
    ∃ ends, ((hunter.gather task).hold partner state).value = .ended ends := by
  cases hgathered : ((hunter.gather task).hold partner state).value with
  | ended ends => exact ⟨ends, rfl⟩
  | kept clues seed harvest =>
      -- The report on a harvest that is kept has no diagnostic.
      rw [hold_pursue_of_kept partner state hgathered, hold_conclude_value] at h
      exact absurd rfl h

/--
A hunt in vain leaves the hunter as it was, with all that it remembers.  Its events are those of
asking the scribe and visiting the catalogue, and the dictionary is not consulted: a hunter with
another dictionary, or with none, another delay between look-ups or other verdicts comes to the
same end by the same events.
-/
theorem pursue_in_vain_leaves_all (h : InVain ((hunter.pursue task).hold partner state).value.1) :
    ((hunter.pursue task).hold partner state).value.2 = hunter ∧
    ((hunter.pursue task).hold partner state).events =
      ((hunter.gather task).hold partner state).events ∧
    hunter.consultations partner state task = [] ∧
    ∀ other : Hunter, other.scribe = hunter.scribe → other.harvester = hunter.harvester →
      (other.pursue task).hold partner state =
        ⟨(((hunter.pursue task).hold partner state).value.1, other),
          ((hunter.pursue task).hold partner state).events,
          ((hunter.pursue task).hold partner state).state⟩ := by
  obtain ⟨ends, hended⟩ := exists_ended_of_inVain h
  have hpursued := hold_pursue_eq_of_ended hended
  refine ⟨?_, ?_, hunter.consultations_of_ended hended, ?_⟩
  · rw [hpursued]
  · rw [hpursued]
  · intro other hscribe hharvester
    have hsame := gather_congr hscribe hharvester task
    rw [← hsame] at hended hpursued
    rw [hold_pursue_eq_of_ended hended, hpursued]

/-- The second page fails after the first one has brought a word. -/
theorem pursue_in_vain_leaves_all_sample :
    let partner := Partner.script fun _ => { outcome := .timedOut }
    let replies : List Reply :=
      [{ outcome := .response ⟨200, "CRANE <a rel=\"next\" href=\"page2\"></a>"⟩ },
        { outcome := .response ⟨500, ""⟩ }]
    let hunter : Hunter := { sample with verdicts := Verdicts.empty.insert "CHAIR" 5 false }
    let hunted := (hunter.pursue (.byLines "C AT 1")).hold partner replies
    hunted.value.1.map Report.pages = .ok 1 ∧ InVain hunted.value.1 ∧
      hunted.value.2 = hunter ∧ hunter.consultations partner replies (.byLines "C AT 1") = [] := by
  intro partner replies hunter hunted
  have hvain : InVain hunted.value.1 := by decide +kernel
  obtain ⟨hleft, -, hnone, -⟩ := pursue_in_vain_leaves_all hvain
  exact ⟨by decide +kernel, hvain, hleft, hnone⟩

end Hunter

end WordHunt
