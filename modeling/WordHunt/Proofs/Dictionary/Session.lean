import WordHunt.Proofs.Dictionary.Ledger
import WordHunt.Proofs.Exchange.Series

/-!
# Sessions with remembered verdicts

In a session words are checked, and verdicts are also read and stored directly, in any order.  What
is remembered at any moment is told by the steps before it: the last verdict stored for the key or,
if none was stored, the one of the first check.  Each step touches no entry but its own.
-/

namespace WordHunt

variable {σ : Type}

/-! ## Steps -/

namespace Session

inductive Step where
  | check (dictionary : Dictionary) (word : String) (length : Nat)
  | validate (dictionary : Dictionary) (word : String) (length : Nat)
  | get (word : String) (length : Nat)
  | insert (word : String) (length : Nat) (exist : Bool)
  deriving DecidableEq

inductive Answer where
  | verdict (verdict : Verdict)
  | exist (exist : Bool)
  | entry (entry : Option Bool)
  | stored
  deriving DecidableEq, Repr

def Step.take (verdicts : Verdicts) : Step → Dialogue (Answer × Verdicts)
  | .check dictionary word length => do
      let (verdict, verdicts) ← dictionary.check verdicts word length
      return (.verdict verdict, verdicts)
  | .validate dictionary word length => do
      let (exist, verdicts) ← dictionary.validate verdicts word length
      return (.exist exist, verdicts)
  | .get word length => .done (.entry (verdicts.get? word length), verdicts)
  | .insert word length exist => .done (.stored, verdicts.insert word length exist)

structure Moment where
  step : Step
  before : Verdicts
  exchanges : List Exchange
  answer : Answer
  after : Verdicts
  deriving DecidableEq

def momentOf (partner : Partner σ) (state : σ) (verdicts : Verdicts) (step : Step) : Moment where
  step := step
  before := verdicts
  exchanges := (step.take verdicts).exchanges partner state
  answer := ((step.take verdicts).hold partner state).value.1
  after := ((step.take verdicts).hold partner state).value.2

def moments (partner : Partner σ) : σ → Verdicts → List Step → List Moment
  | _, _, [] => []
  | state, verdicts, step :: steps =>
      let moment := momentOf partner state verdicts step
      let state := ((step.take verdicts).hold partner state).state
      moment :: moments partner state moment.after steps

theorem map_step_moments (partner : Partner σ) (state : σ) (verdicts : Verdicts)
    (steps : List Step) : (moments partner state verdicts steps).map Moment.step = steps := by
  induction steps generalizing state verdicts with
  | nil => rfl
  | cons step steps ih => rw [moments, List.map_cons, ih, momentOf]

/-! ## What the steps before tell -/

section Recalled

variable (word : String) (length : Nat)

def stored? (moment : Moment) : Option Bool :=
  match moment.step with
  | .insert other size exist => if word = other ∧ length = size then some exist else none
  | _ => none

def judged? (moment : Moment) : Option Bool :=
  match moment.step, moment.answer with
  | .check _ other size, .verdict verdict =>
      if word = other ∧ length = size then some verdict.exist else none
  | .validate _ other size, .exist exist =>
      if word = other ∧ length = size then some exist else none
  | _, _ => none

/-- The verdict that was stored last or, if none was stored, that of the first check. -/
def recalled (earlier : List Moment) : Option Bool :=
  (earlier.reverse.findSome? (stored? word length)).or (earlier.findSome? (judged? word length))

theorem recalled_append (earlier : List Moment) (moment : Moment) :
    recalled word length (earlier ++ [moment]) =
      (stored? word length moment).or
        ((recalled word length earlier).or (judged? word length moment)) := by
  simp only [recalled, List.reverse_append, List.reverse_singleton, List.singleton_append,
    List.findSome?_append, List.findSome?_cons, List.findSome?_nil, Option.or_assoc]
  cases stored? word length moment <;> cases judged? word length moment <;> rfl

end Recalled

/-! ## Each step -/

structure Moment.Checks (moment : Moment) (dictionary : Dictionary) (word : String) (length : Nat)
    (verdict : Verdict) : Prop where
  requests_eq : moment.exchanges.map Exchange.request =
    if moment.before.get? word length = none ∧ word.length = length then
      [dictionary.lookupRequest word]
    else []
  remembers : moment.after.get? word length = some verdict.exist
  keeps : ∀ other size, ¬ (other = word ∧ size = length) →
    moment.after.get? other size = moment.before.get? other size
  size_eq : moment.after.size =
    moment.before.size + if moment.before.get? word length = none then 1 else 0
  of_known : ∀ exist, moment.before.get? word length = some exist → verdict = .remembered exist
  of_new : moment.before.get? word length = none →
    (verdict.exist = false ↔ word.length ≠ length ∨
      ∃ exchange ∈ moment.exchanges, exchange.reply.Denies dictionary.budget)

def Moment.Lawful (moment : Moment) : Prop :=
  match moment.step with
  | .check dictionary word length =>
      ∃ verdict, moment.answer = .verdict verdict ∧ moment.Checks dictionary word length verdict
  | .validate dictionary word length =>
      ∃ verdict, moment.answer = .exist verdict.exist ∧
        moment.Checks dictionary word length verdict
  | .get word length =>
      moment.answer = .entry (moment.before.get? word length) ∧ moment.exchanges = [] ∧
        moment.after = moment.before
  | .insert word length exist =>
      moment.exchanges = [] ∧ moment.after = moment.before.insert word length exist ∧
        moment.after.get? word length = some exist ∧
        ∀ other size, ¬ (other = word ∧ size = length) →
          moment.after.get? other size = moment.before.get? other size

section Check

variable {moment : Moment} {dictionary : Dictionary} {word : String} {length : Nat}

theorem checks_of_check (partner : Partner σ) (state : σ)
    (hexchanges : moment.exchanges =
      (dictionary.check moment.before word length).exchanges partner state)
    (hafter : moment.after =
      ((dictionary.check moment.before word length).hold partner state).value.2) :
    moment.Checks dictionary word length
      ((dictionary.check moment.before word length).hold partner state).value.1 := by
  rw [dictionary.exchanges_check] at hexchanges
  constructor
  case requests_eq =>
    rw [hexchanges]
    split <;> rfl
  case remembers =>
    rw [hafter]
    exact dictionary.get?_check partner state moment.before
  case keeps =>
    intro other size hne
    rw [hafter]
    exact dictionary.get?_check_of_ne partner state moment.before hne
  case size_eq =>
    rw [hafter, dictionary.verdicts_check]
    split
    · next hnew => rw [Verdicts.size_insert, if_pos hnew]
    · rfl
  case of_known =>
    intro exist hknown
    rw [dictionary.check_of_remembered moment.before hknown]
    rfl
  case of_new =>
    intro hnew
    rw [dictionary.exist_check_eq_false_iff partner state moment.before hnew, hexchanges]
    by_cases hlength : word.length = length <;> simp [hnew, hlength]

end Check

variable (partner : Partner σ) (state : σ)

theorem lawful_momentOf (verdicts : Verdicts) (step : Step) :
    (momentOf partner state verdicts step).Lawful := by
  cases step with
  | check dictionary word length =>
      refine ⟨((dictionary.check verdicts word length).hold partner state).value.1, ?_, ?_⟩
      · simp only [momentOf, Step.take, Dialogue.hold_seq, Dialogue.hold_pure]
      · apply checks_of_check
        · simp [momentOf, Step.take, Dialogue.exchanges_seq, Dialogue.exchanges_pure]
        · simp only [momentOf, Step.take, Dialogue.hold_seq, Dialogue.hold_pure]
  | validate dictionary word length =>
      refine ⟨((dictionary.check verdicts word length).hold partner state).value.1, ?_, ?_⟩
      · simp only [momentOf, Step.take, Dictionary.validate, Dialogue.hold_seq,
          Dialogue.hold_pure]
      · apply checks_of_check
        · simp [momentOf, Step.take, Dictionary.validate, Dialogue.exchanges_seq,
            Dialogue.exchanges_pure]
        · simp only [momentOf, Step.take, Dictionary.validate, Dialogue.hold_seq,
            Dialogue.hold_pure]
  | get word length => exact ⟨rfl, rfl, rfl⟩
  | insert word length exist =>
      refine ⟨rfl, rfl, ?_, ?_⟩
      · exact (verdicts.get?_insert word word length length exist).trans (if_pos ⟨rfl, rfl⟩)
      · intro other size hne
        exact (verdicts.get?_insert word other length size exist).trans (if_neg hne)

/-! ## Sessions -/

def Recalls (verdicts : Verdicts) (earlier : List Moment) : Prop :=
  ∀ word length, verdicts.get? word length = recalled word length earlier

theorem recalls_empty : Recalls .empty [] := by
  intro word length
  simp [Verdicts.empty, Verdicts.get?, recalled]

section Recall

variable {moment : Moment} {earlier : List Moment}

theorem Moment.Checks.get?_after {dictionary : Dictionary} {word : String} {length : Nat}
    {verdict : Verdict} (checks : moment.Checks dictionary word length verdict) (other : String)
    (size : Nat) :
    moment.after.get? other size =
      (moment.before.get? other size).or
        (if other = word ∧ size = length then some verdict.exist else none) := by
  by_cases hsame : other = word ∧ size = length
  · obtain ⟨rfl, rfl⟩ := hsame
    rw [checks.remembers, if_pos ⟨rfl, rfl⟩]
    -- A key that was known keeps its verdict: only the first check counts.
    cases hentry : moment.before.get? other size with
    | some exist => rw [checks.of_known exist hentry, Option.some_or, Verdict.exist]
    | none => rfl
  · rw [checks.keeps other size hsame, if_neg hsame, Option.or_none]

theorem Recalls.step (hrecalls : Recalls moment.before earlier) (hlawful : moment.Lawful) :
    Recalls moment.after (earlier ++ [moment]) := by
  intro other size
  rw [recalled_append, ← hrecalls other size]
  rw [Moment.Lawful] at hlawful
  split at hlawful
  · next dictionary word length hstep =>
      obtain ⟨verdict, hanswer, hchecks⟩ := hlawful
      rw [hchecks.get?_after]
      simp [stored?, judged?, hstep, hanswer]
  · next dictionary word length hstep =>
      obtain ⟨verdict, hanswer, hchecks⟩ := hlawful
      rw [hchecks.get?_after]
      simp [stored?, judged?, hstep, hanswer]
  · next word length hstep =>
      obtain ⟨-, -, hafter⟩ := hlawful
      simp [stored?, judged?, hstep, hafter]
  · next word length exist hstep =>
      obtain ⟨-, hafter, -, -⟩ := hlawful
      rw [hafter, Verdicts.get?_insert]
      by_cases hsame : other = word ∧ size = length <;> simp [stored?, judged?, hstep, hsame]

end Recall

theorem exists_moment {verdicts : Verdicts} {past : List Moment} (hrecalls : Recalls verdicts past)
    (before : List Step) (step : Step) (after : List Step) :
    ∃ earlier moment later,
      moments partner state verdicts (before ++ step :: after) = earlier ++ moment :: later ∧
        earlier.map Moment.step = before ∧ moment.step = step ∧ later.map Moment.step = after ∧
        Recalls moment.before (past ++ earlier) ∧ moment.Lawful := by
  -- The steps taken join the past, and what is remembered after them is still what it tells.
  induction before generalizing state verdicts past with
  | nil =>
      have hlawful := lawful_momentOf partner state verdicts step
      refine ⟨[], momentOf partner state verdicts step, _, rfl, rfl, rfl, ?_, ?_, hlawful⟩
      · apply map_step_moments
      · rwa [List.append_nil]
  | cons first before ih =>
      have hlawful := lawful_momentOf partner state verdicts first
      have hfirst : Recalls (momentOf partner state verdicts first).before past := hrecalls
      obtain ⟨earlier, moment, later, hmoments, hbefore, hrest⟩ :=
        ih ((first.take verdicts).hold partner state).state (hfirst.step hlawful)
      rw [List.append_assoc] at hrest
      refine ⟨momentOf partner state verdicts first :: earlier, moment, later, ?_, ?_, hrest⟩
      · rw [List.cons_append, moments, hmoments]
        rfl
      · rw [List.map_cons, hbefore]
        rfl

/--
Every step of a session that began with nothing remembered finds what the steps before tell, and
does nothing else than it should.
-/
theorem every_step_lawful (before : List Step) (step : Step) (after : List Step) :
    ∃ earlier moment later,
      moments partner state .empty (before ++ step :: after) = earlier ++ moment :: later ∧
        earlier.map Moment.step = before ∧ moment.step = step ∧ later.map Moment.step = after ∧
        (∀ word length, moment.before.get? word length = recalled word length earlier) ∧
        moment.Lawful :=
  exists_moment partner state recalls_empty before step after

-- A word in small letters is another key.
example :
    let dictionary : Dictionary := ⟨Dictionary.defaultLookupUrl, Dictionary.defaultBudget⟩
    let partner := Partner.script fun _ => { outcome := .timedOut }
    let replies : List Reply := [{ outcome := .response ⟨404, ""⟩ }]
    let steps : List Step :=
      [.check dictionary "ZLOAK" 5, .validate dictionary "zloak" 5, .insert "ZLOAK" 5 true,
        .check dictionary "ZLOAK" 5, .get "ZLOAK" 6]
    (moments partner replies .empty steps).map Moment.answer =
      [.verdict .notFound, .exist true, .stored, .verdict (.remembered true), .entry none] := by
  decide +kernel

end Session

end WordHunt
