import WordHunt.Command.Perform
import WordHunt.Proofs.Hunt.Printed

/-!
# Commands that hunt

Two commands send out a hunter, one by a player's own words and one by clue lines.  If such a
command succeeds, it prints the report of the hunt and nothing else, and the words found are read
back from what it prints as far as they stand apart in their columns.
-/

namespace WordHunt

variable {σ : Type}

namespace Command

def hunts : Command → Bool
  | .run .. | .rules .. => true
  | .compile _ | .filter .. => false

/-- The hunter whom a command sends out and the task, if all that they need is there. -/
def sentOut? (surroundings : Surroundings) (config : Option String) :
    Command → Option (Hunter × Task)
  | .run words validate =>
      match prepare surroundings config words with
      | .ok (settings, text) => some (settings.toHunter validate, .byWords text)
      | .error _ => none
  | .rules file validate =>
      match surroundings.settings config, (surroundings.read file).1 with
      | .ok settings, .ok lines => some (settings.toHunter validate, .byLines lines)
      | _, _ => none
  | .compile _ | .filter .. => none

variable {surroundings : Surroundings} {config : Option String} {command : Command}

theorem perform_cases (hhunts : command.hunts = true) :
    (∃ failure, command.perform surroundings config = .done (.error failure)) ∨
    ∃ hunter task, command.sentOut? surroundings config = some (hunter, task) ∧
      (∀ clues, task ≠ .byClues clues) ∧
      command.perform surroundings config = report (hunter.pursue task) := by
  cases command with
  | compile file => cases hhunts
  | filter rules words => cases hhunts
  | run words validate =>
      rw [perform, sentOut?]
      cases prepare surroundings config words with
      | error failure => exact .inl ⟨failure, rfl⟩
      | ok prepared => exact .inr ⟨_, _, rfl, fun clues => Task.noConfusion, rfl⟩
  | rules file validate =>
      rw [perform, sentOut?]
      cases surroundings.settings config with
      | error failure => exact .inl ⟨failure, rfl⟩
      | ok settings =>
          cases (surroundings.read file).1 with
          | error failure => exact .inl ⟨failure, rfl⟩
          | ok lines => exact .inr ⟨_, _, rfl, fun clues => Task.noConfusion, rfl⟩

theorem hold_report (hunt : Dialogue Hunter.Hunted) (partner : Partner σ) (state : σ) :
    ((report hunt).hold partner state).value =
      (hunt.hold partner state).value.1.map Report.toText := by
  rw [report, Dialogue.hold_seq]
  rfl

end Command

section Success

variable {surroundings : Surroundings} {arguments : List String} {config : Option String}
  {command : Command} {partner : Partner σ} {state : σ}

theorem exists_report_of_success
    (hcommand : Invocation.ofArguments? arguments = some (.command config command))
    (hhunts : command.hunts = true)
    (hcode : ((perform surroundings arguments).hold partner state).value.code = 0) :
    ∃ hunter task report, command.sentOut? surroundings config = some (hunter, task) ∧
      (∀ clues, task ≠ .byClues clues) ∧
      ((hunter.pursue task).hold partner state).value.1 = .ok report ∧
      ((perform surroundings arguments).hold partner state).value.output = report.toText := by
  rw [hold_perform_value hcommand] at hcode ⊢
  rcases command.perform_cases hhunts with ⟨failure, hfails⟩ | ⟨hunter, task, hsent, htold, hreport⟩
  · rw [hfails] at hcode
    cases hcode
  · rw [hreport, Command.hold_report] at hcode ⊢
    cases hends : ((hunter.pursue task).hold partner state).value.1 with
    | error failure =>
        rw [hends] at hcode
        cases hcode
    | ok report => exact ⟨hunter, task, report, hsent, htold, hends, rfl⟩

/--
A command that hunts and succeeds prints the report of the hunt.  If words were found, they stand
in rows of at most ten below their number, and they are read back row by row if they have fewer
than eight letters.  Longer words have no blank between them: a row of them is read as one word.
-/
theorem printed_hunt_reads_back
    (hcommand : Invocation.ofArguments? arguments = some (.command config command))
    (hhunts : command.hunts = true)
    (hcode : ((perform surroundings arguments).hold partner state).value.code = 0) :
    ∃ hunter task report, command.sentOut? surroundings config = some (hunter, task) ∧
      ((hunter.pursue task).hold partner state).value.1 = .ok report ∧
      ((perform surroundings arguments).hold partner state).value.output = report.toText ∧
      (report.found ≠ [] →
        ∃ rows, rows.flatten = report.found ∧ (∀ row ∈ rows, row ≠ [] ∧ row.length ≤ 10) ∧
          Report.readFound?
              ((perform surroundings arguments).hold partner state).value.output =
            some (report.found.length,
              if report.clues.length < 8 then rows
              else rows.map fun row => [Text.joinWith "" row])) := by
  obtain ⟨hunter, task, report, hsent, htold, hends, houtput⟩ :=
    exists_report_of_success hcommand hhunts hcode
  refine ⟨hunter, task, report, hsent, hends, houtput, fun hfound => ?_⟩
  have horderly := Hunter.isOrderly_of_found htold hends hfound
  refine ⟨Report.rows report.found, Report.flatten_rows report.found, ?_, ?_⟩
  · intro row hrow
    exact Report.length_of_mem_rows hrow
  · rw [houtput]
    exact horderly.readFound?_toText hfound

end Success

def Surroundings.ofInput (input : String) : Surroundings where
  file _ := .error .missing
  input := input.toUTF8
  environment := []

theorem printed_hunt_reads_back_sample :
    let surroundings : Surroundings := .ofInput "C AT 1"
    let partner := Partner.script fun _ => { outcome := .timedOut }
    let replies : List Reply := [{ outcome := .response ⟨200, "CRANE, BRICK, CHAIR"⟩ }]
    let ending := ((perform surroundings ["rules", "-"]).hold partner replies).value
    Invocation.ofArguments? ["rules", "-"] = some (.command none (.rules "-" false)) ∧
      ending.code = 0 ∧
      ∃ rows, rows.flatten = ["CHAIR", "CRANE"] ∧ (∀ row ∈ rows, row ≠ [] ∧ row.length ≤ 10) ∧
        Report.readFound? ending.output = some (2, rows) := by
  intro surroundings partner replies ending
  have hcommand :
      Invocation.ofArguments? ["rules", "-"] = some (.command none (.rules "-" false)) := by
    decide +kernel
  have hcode : ending.code = 0 := by decide +kernel
  have hfound : ((Command.rules "-" false).sentOut? surroundings none).map (fun sent =>
      ((sent.1.pursue sent.2).hold partner replies).value.1.map fun report =>
        (report.found, report.clues.length)) = some (.ok (["CHAIR", "CRANE"], 5)) := by
    decide +kernel
  obtain ⟨hunter, task, report, hsent, hends, -, hread⟩ :=
    printed_hunt_reads_back hcommand rfl hcode
  rw [hsent, Option.map_some, hends] at hfound
  obtain ⟨hwords, hlength⟩ := Prod.mk.inj (Except.ok.inj (Option.some.inj hfound))
  simp only [hwords, hlength] at hread
  obtain ⟨rows, hflatten, hrows, hread⟩ := hread (by decide)
  exact ⟨hcommand, hcode, rows, hflatten, hrows, hread⟩

/-- Two words of eight letters are read back as one of sixteen. -/
theorem long_words_read_as_one :
    let surroundings : Surroundings := .ofInput "A AT 1\nLENGTH: 8\n"
    let partner := Partner.script fun _ => { outcome := .timedOut }
    let replies : List Reply := [{ outcome := .response ⟨200, "ABSOLUTE ABSTRACT"⟩ }]
    let ending := ((perform surroundings ["rules", "-"]).hold partner replies).value
    Invocation.ofArguments? ["rules", "-"] = some (.command none (.rules "-" false)) ∧
      ending.code = 0 ∧
      ((Command.rules "-" false).sentOut? surroundings none).map (fun sent =>
        ((sent.1.pursue sent.2).hold partner replies).value.1.map Report.found) =
          some (.ok ["ABSOLUTE", "ABSTRACT"]) ∧
      Report.readFound? ending.output = some (2, [["ABSOLUTEABSTRACT"]]) := by
  intro surroundings partner replies ending
  refine ⟨?_, ?_, ?_, ?_⟩
  all_goals decide +kernel

end WordHunt
