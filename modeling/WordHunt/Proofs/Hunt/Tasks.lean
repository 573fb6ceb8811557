import WordHunt.Hunt.Basic
import WordHunt.Proofs.Exchange.Exchanges

/-!
# Tasks of a hunter

A hunter pursues a task in stages: it finds out the clues, gathers a harvest for their seed, and
finishes by screening it and looking up the words left.  Only the last stage knows what the hunter
remembers.  Tasks may follow one another, each pursued by the hunter that the one before left.
-/

namespace WordHunt

variable {σ : Type}

/-- What a hunter can be told: a player's own words, clue lines, or clues. -/
inductive Task where
  | byWords (text : String)
  | byLines (text : String)
  | byClues (clues : Clues)
  deriving DecidableEq

/-- What a hunt has come to before words are looked up: its end, or a harvest to be screened. -/
inductive Gathered where
  | ended (ends : Except Failure Report)
  | kept (clues : Clues) (seed : Seed) (harvest : Harvest)

def Gathered.ofHarvest (clues : Clues) (seed : Seed) : Except Failure Harvest → Gathered
  | .error failure => .ended (.error failure)
  | .ok harvest =>
      match harvest.abandoned with
      | some ⟨page, reason⟩ =>
          let report : Report :=
            { clues
              seed := some seed
              pages := harvest.pages
              diagnostic := some (.abandoned seed page reason) }
          .ended (.ok report)
      | none => .kept clues seed harvest

theorem Gathered.ofHarvest_eq_kept_iff {clues other : Clues} {seed origin : Seed}
    {harvested : Except Failure Harvest} {harvest : Harvest} :
    ofHarvest clues seed harvested = .kept other origin harvest ↔
      clues = other ∧ seed = origin ∧ harvested = .ok harvest ∧ harvest.abandoned = none := by
  cases harvested with
  | error failure => simp [ofHarvest]
  | ok gained =>
      cases habandoned : gained.abandoned with
      | none =>
          simp only [ofHarvest, habandoned, kept.injEq, Except.ok.injEq]
          refine and_congr_right fun _ => and_congr_right fun _ => ?_
          exact ⟨fun h => ⟨h, h ▸ habandoned⟩, And.left⟩
      | some abandonment =>
          simp only [ofHarvest, habandoned, reduceCtorEq, false_iff, not_and,
            Except.ok.injEq]
          rintro - - rfl
          simp [habandoned]

namespace Hunter

variable (hunter : Hunter)

def pursue : Task → Dialogue Hunted
  | .byWords text => hunter.hunt text
  | .byLines text => hunter.huntLines text
  | .byClues clues => hunter.huntClues clues

def pursueAll (hunter : Hunter) : List Task → Dialogue (List (Except Failure Report) × Hunter)
  | [] => .done ([], hunter)
  | task :: tasks => do
      let (ends, hunter) ← hunter.pursue task
      let (rest, hunter) ← hunter.pursueAll tasks
      return (ends :: rest, hunter)

/-! ## Stages -/

def understand : Task → Dialogue (Except Failure Clues)
  | .byWords text =>
      match hunter.scribe with
      | none => .done (.error (.configuration .noScribe))
      | some scribe => do return (← scribe.write text).map Clues.ofText
  | .byLines text => .done (.ok (.ofText text))
  | .byClues clues => .done (.ok clues)

def gatherBy (clues : Clues) : Dialogue Gathered :=
  match clues.seed? with
  | none =>
      .warn Diagnostic.noSeed.message
        (.done (.ended (.ok { clues, diagnostic := some .noSeed })))
  | some seed => do
      return .ofHarvest clues seed (← hunter.harvester.harvest seed clues.length)

def gather (task : Task) : Dialogue Gathered := do
  match ← hunter.understand task with
  | .error failure => return .ended (.error failure)
  | .ok clues => hunter.gatherBy clues

def finish : Gathered → Dialogue Hunted
  | .ended ends => .done (ends, hunter)
  | .kept clues seed harvest => hunter.conclude clues seed harvest

theorem huntClues_eq (clues : Clues) :
    hunter.huntClues clues = hunter.gatherBy clues >>= hunter.finish := by
  rw [huntClues, gatherBy]
  cases clues.seed? with
  | none => rfl
  | some seed =>
      refine Eq.trans ?_ (Dialogue.bind_bind ..).symm
      refine congrArg (Dialogue.bind _) (funext fun harvest => ?_)
      cases harvest with
      | error failure => rfl
      | ok harvest =>
          change _ = hunter.finish (.ofHarvest clues seed (.ok harvest))
          cases habandoned : harvest.abandoned <;>
            simp only [Gathered.ofHarvest, habandoned] <;> rfl

theorem pursue_eq (task : Task) : hunter.pursue task = hunter.gather task >>= hunter.finish := by
  cases task with
  | byClues clues => exact hunter.huntClues_eq clues
  | byLines text => exact hunter.huntClues_eq (.ofText text)
  | byWords text =>
      rw [pursue, hunt, gather, understand]
      cases hunter.scribe with
      | none => rfl
      | some scribe =>
          refine Eq.trans ?_ (Dialogue.bind_bind ..).symm
          refine Eq.trans ?_ (Dialogue.bind_bind ..).symm
          refine congrArg (Dialogue.bind _) (funext fun written => ?_)
          cases written with
          | error failure => rfl
          | ok lines => exact hunter.huntClues_eq (.ofText lines)

/-! ## What is gathered -/

theorem gather_congr {hunter other : Hunter} (hscribe : other.scribe = hunter.scribe)
    (hharvester : other.harvester = hunter.harvester) (task : Task) :
    other.gather task = hunter.gather task := by
  have hby : other.gatherBy = hunter.gatherBy := by
    funext clues
    rw [gatherBy, gatherBy, hharvester]
  have hunderstand : other.understand task = hunter.understand task := by
    cases task with
    | byWords text => rw [understand, understand, hscribe]
    | byLines text => rfl
    | byClues clues => rfl
  rw [gather, gather, hby, hunderstand]

variable (partner : Partner σ) (state : σ)

theorem hold_gatherBy_eq_kept_iff (known : Clues) {clues : Clues} {seed : Seed}
    {harvest : Harvest} :
    ((hunter.gatherBy known).hold partner state).value = .kept clues seed harvest ↔
      known = clues ∧ clues.seed? = some seed ∧
        ((hunter.harvester.harvest seed clues.length).hold partner state).value = .ok harvest ∧
        harvest.abandoned = none := by
  rw [gatherBy]
  cases hseed : known.seed? with
  | none =>
      simp only [Dialogue.hold, reduceCtorEq, false_iff]
      rintro ⟨rfl, hsome, -⟩
      rw [hseed] at hsome
      contradiction
  | some origin =>
      simp only [Dialogue.hold_seq, Dialogue.hold_pure, Gathered.ofHarvest_eq_kept_iff]
      constructor
      · rintro ⟨rfl, rfl, hharvest⟩
        exact ⟨rfl, hseed, hharvest⟩
      · rintro ⟨rfl, hsome, hharvest⟩
        obtain rfl := Option.some.inj (hseed.symm.trans hsome)
        exact ⟨rfl, rfl, hharvest⟩

theorem hold_gather_eq_kept_iff (task : Task) {clues : Clues} {seed : Seed}
    {harvest : Harvest} :
    ((hunter.gather task).hold partner state).value = .kept clues seed harvest ↔
      let understood := (hunter.understand task).hold partner state
      understood.value = .ok clues ∧ clues.seed? = some seed ∧
        ((hunter.harvester.harvest seed clues.length).hold partner understood.state).value =
          .ok harvest ∧
        harvest.abandoned = none := by
  rw [gather, Dialogue.hold_seq]
  generalize (hunter.understand task).hold partner state = understood
  obtain ⟨value, events, after⟩ := understood
  cases value with
  | error failure => simp [Dialogue.hold_pure]
  | ok known => simp only [hold_gatherBy_eq_kept_iff, Except.ok.injEq]

/-! ## What is asked -/

/-- The exchanges with the dictionary when a task is pursued. -/
def consultations (task : Task) : List Exchange :=
  let gathered := (hunter.gather task).hold partner state
  (hunter.finish gathered.value).exchanges partner gathered.state

theorem exchanges_pursue (task : Task) :
    (hunter.pursue task).exchanges partner state =
      (hunter.gather task).exchanges partner state ++ hunter.consultations partner state task := by
  rw [pursue_eq, Dialogue.exchanges_seq, consultations]

section

variable {partner : Partner σ} {state : σ} {task : Task}

theorem exchanges_gather_of_error {failure : Failure}
    (h : ((hunter.understand task).hold partner state).value = .error failure) :
    (hunter.gather task).exchanges partner state =
      (hunter.understand task).exchanges partner state := by
  simp only [gather, Dialogue.exchanges_seq, h, Dialogue.exchanges_pure, List.append_nil]

theorem exchanges_gather_of_noSeed {clues : Clues}
    (h : ((hunter.understand task).hold partner state).value = .ok clues)
    (hseed : clues.seed? = none) :
    (hunter.gather task).exchanges partner state =
      (hunter.understand task).exchanges partner state := by
  simp only [gather, Dialogue.exchanges_seq, h, gatherBy, hseed, Dialogue.exchanges,
    List.append_nil]

theorem exchanges_gather_of_seed {clues : Clues} {seed : Seed}
    (h : ((hunter.understand task).hold partner state).value = .ok clues)
    (hseed : clues.seed? = some seed) :
    (hunter.gather task).exchanges partner state =
      (hunter.understand task).exchanges partner state ++
        (hunter.harvester.harvest seed clues.length).exchanges partner
          ((hunter.understand task).hold partner state).state := by
  simp only [gather, Dialogue.exchanges_seq, h, gatherBy, hseed, Dialogue.exchanges_pure,
    List.append_nil]

theorem consultations_of_ended {ends : Except Failure Report}
    (h : ((hunter.gather task).hold partner state).value = .ended ends) :
    hunter.consultations partner state task = [] := by
  simp only [consultations, h, finish, Dialogue.exchanges_done]

theorem consultations_of_kept {clues : Clues} {seed : Seed} {harvest : Harvest}
    (h : ((hunter.gather task).hold partner state).value = .kept clues seed harvest) :
    hunter.consultations partner state task =
      (hunter.lookUp clues.length (clues.screen harvest.words.toList).accepted).exchanges partner
        ((hunter.gather task).hold partner state).state := by
  simp only [consultations, h, finish, conclude, Dialogue.exchanges_seq, Dialogue.exchanges_pure,
    List.append_nil]

end

/-- The exchanges with the dictionary when tasks are pursued one after the other. -/
def allConsultations (partner : Partner σ) : Hunter → σ → List Task → List Exchange
  | _, _, [] => []
  | hunter, state, task :: tasks =>
      let pursued := (hunter.pursue task).hold partner state
      hunter.consultations partner state task ++
        allConsultations partner pursued.value.2 pursued.state tasks

theorem exchanges_pursueAll_cons (task : Task) (tasks : List Task) :
    let pursued := (hunter.pursue task).hold partner state
    (hunter.pursueAll (task :: tasks)).exchanges partner state =
      (hunter.pursue task).exchanges partner state ++
        (pursued.value.2.pursueAll tasks).exchanges partner pursued.state := by
  simp only [pursueAll, Dialogue.exchanges_seq, Dialogue.exchanges_pure, List.append_nil]

def allGatherings (partner : Partner σ) : Hunter → σ → List Task → List Exchange
  | _, _, [] => []
  | hunter, state, task :: tasks =>
      let pursued := (hunter.pursue task).hold partner state
      (hunter.gather task).exchanges partner state ++
        allGatherings partner pursued.value.2 pursued.state tasks

theorem exchanges_pursueAll_perm (tasks : List Task) :
    ((hunter.pursueAll tasks).exchanges partner state).Perm
      (hunter.allConsultations partner state tasks ++
        hunter.allGatherings partner state tasks) := by
  induction tasks generalizing hunter state with
  | nil => exact List.Perm.refl _
  | cons task tasks ih =>
      rw [List.perm_iff_count]
      intro exchange
      have hrest := (ih ((hunter.pursue task).hold partner state).value.2
        ((hunter.pursue task).hold partner state).state).count_eq exchange
      simp only [exchanges_pursueAll_cons, exchanges_pursue, allConsultations, allGatherings,
        List.count_append] at hrest ⊢
      omega

theorem allConsultations_sublist (tasks : List Task) :
    (hunter.allConsultations partner state tasks).Sublist
      ((hunter.pursueAll tasks).exchanges partner state) := by
  induction tasks generalizing hunter state with
  | nil => exact List.Sublist.refl _
  | cons task tasks ih =>
      rw [exchanges_pursueAll_cons, exchanges_pursue]
      exact (List.sublist_append_right ..).append (ih ..)

end Hunter

end WordHunt
