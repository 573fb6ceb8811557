import WordHunt.Proofs.Exchange.Sending
import WordHunt.Proofs.Hunt.Composition
import WordHunt.Proofs.Hunt.Phases
import WordHunt.Proofs.Hunt.Report

/-!
# What a hunter remembers

A hunter that began with nothing remembers exactly what the dictionary said: its verdicts rest on
the exchanges with the dictionary, in which no word occurs twice, and they stay as they are.  So
if the dictionary always answers alike, remembering changes nothing that a hunt comes to.
-/

namespace WordHunt

open Text

variable {σ τ : Type}

namespace Hunter

variable {hunter : Hunter} {dictionary : Dictionary} {ledger : List Exchange}
  (partner : Partner σ) (state : σ)

/-! ## One task -/

theorem hold_pursue_eq_of_ended {partner : Partner σ} {state : σ} {task : Task}
    {ends : Except Failure Report}
    (h : ((hunter.gather task).hold partner state).value = .ended ends) :
    (hunter.pursue task).hold partner state =
      ⟨(ends, hunter), ((hunter.gather task).hold partner state).events,
        ((hunter.gather task).hold partner state).state⟩ := by
  simp only [pursue_eq, Dialogue.hold_seq, h, finish, Dialogue.hold_done, List.append_nil]

theorem hold_pursue_of_ended {task : Task} {ends : Except Failure Report}
    (h : ((hunter.gather task).hold partner state).value = .ended ends) :
    ((hunter.pursue task).hold partner state).value = (ends, hunter) := by
  rw [hold_pursue_eq_of_ended h]

theorem hold_pursue_of_kept {task : Task} {clues : Clues} {seed : Seed} {harvest : Harvest}
    (h : ((hunter.gather task).hold partner state).value = .kept clues seed harvest) :
    ((hunter.pursue task).hold partner state).value =
      ((hunter.conclude clues seed harvest).hold partner
        ((hunter.gather task).hold partner state).state).value := by
  simp only [pursue_eq, Dialogue.hold_seq, h, finish]

theorem exists_verdicts_after (task : Task) :
    ∃ verdicts, ((hunter.pursue task).hold partner state).value.2 =
      { hunter with verdicts } := by
  cases h : ((hunter.gather task).hold partner state).value with
  | ended ends =>
      rw [hold_pursue_of_ended partner state h]
      exact ⟨hunter.verdicts, rfl⟩
  | kept clues seed harvest =>
      rw [hold_pursue_of_kept partner state h, hold_conclude_value]
      exact ⟨_, rfl⟩

theorem capitals_of_gathered {task : Task} {clues : Clues} {seed : Seed} {harvest : Harvest}
    (h : ((hunter.gather task).hold partner state).value = .kept clues seed harvest) :
    ∀ word ∈ (clues.screen harvest.words.toList).accepted,
      IsCapitals word.toList ∧ word.length = clues.length := by
  obtain ⟨-, -, hharvest, hkept⟩ := (hunter.hold_gather_eq_kept_iff _ _ task).mp h
  exact (hunter.sortedLT_accepted hharvest hkept).2

theorem restOn_pursue (hdictionary : hunter.dictionary = some dictionary)
    (rests : hunter.verdicts.RestOn dictionary ledger) (task : Task) :
    ((hunter.pursue task).hold partner state).value.2.verdicts.RestOn dictionary
      (ledger ++ hunter.consultations partner state task) := by
  cases h : ((hunter.gather task).hold partner state).value with
  | ended ends =>
      rw [hold_pursue_of_ended partner state h, hunter.consultations_of_ended h, List.append_nil]
      exact rests
  | kept clues seed harvest =>
      rw [hold_pursue_of_kept partner state h, hunter.consultations_of_kept h, hold_conclude_value]
      simp only [lookUp, hdictionary]
      exact hunter.restOn_lookUpFrom dictionary _ partner _ _ _ _ rests
        (capitals_of_gathered partner state h)

theorem get?_pursue_of_some (task : Task) {word : String} {length : Nat} {exist : Bool}
    (h : hunter.verdicts.get? word length = some exist) :
    ((hunter.pursue task).hold partner state).value.2.verdicts.get? word length =
      some exist := by
  cases hgathered : ((hunter.gather task).hold partner state).value with
  | ended ends =>
      rw [hold_pursue_of_ended partner state hgathered]
      exact h
  | kept clues seed harvest =>
      rw [hold_pursue_of_kept partner state hgathered, hold_conclude_value]
      cases hdictionary : hunter.dictionary with
      | none =>
          simp only [lookUp, hdictionary]
          exact h
      | some dictionary =>
          simp only [lookUp, hdictionary]
          exact hunter.get?_lookUpFrom_of_some dictionary _ partner _ _ _ _ h

/-! ## Tasks one after the other -/

theorem hold_pursueAll_cons (task : Task) (tasks : List Task) :
    let first := (hunter.pursue task).hold partner state
    let rest := (first.value.2.pursueAll tasks).hold partner first.state
    ((hunter.pursueAll (task :: tasks)).hold partner state).value =
        (first.value.1 :: rest.value.1, rest.value.2) ∧
      ((hunter.pursueAll (task :: tasks)).hold partner state).state = rest.state := by
  simp only [pursueAll, Dialogue.hold_seq, Dialogue.hold_pure, and_self]

def after (hunter : Hunter) (partner : Partner σ) (state : σ) (tasks : List Task) : Hunter :=
  ((hunter.pursueAll tasks).hold partner state).value.2

theorem after_nil : hunter.after partner state [] = hunter := rfl

theorem after_cons (task : Task) (tasks : List Task) :
    hunter.after partner state (task :: tasks) =
      ((hunter.pursue task).hold partner state).value.2.after partner
        ((hunter.pursue task).hold partner state).state tasks := by
  rw [after, (hunter.hold_pursueAll_cons partner state task tasks).1, after]

theorem after_append (tasks more : List Task) :
    hunter.after partner state (tasks ++ more) =
      (hunter.after partner state tasks).after partner
        ((hunter.pursueAll tasks).hold partner state).state more := by
  induction tasks generalizing hunter state with
  | nil => rfl
  | cons task tasks ih =>
      rw [List.cons_append, after_cons, ih, after_cons,
        (hunter.hold_pursueAll_cons partner state task tasks).2]

theorem allConsultations_append (tasks more : List Task) :
    hunter.allConsultations partner state (tasks ++ more) =
      hunter.allConsultations partner state tasks ++
        (hunter.after partner state tasks).allConsultations partner
          ((hunter.pursueAll tasks).hold partner state).state more := by
  induction tasks generalizing hunter state with
  | nil => rfl
  | cons task tasks ih =>
      rw [List.cons_append, allConsultations, ih, allConsultations, after_cons,
        (hunter.hold_pursueAll_cons partner state task tasks).2, List.append_assoc]

theorem exists_verdicts_after_all (tasks : List Task) :
    ∃ verdicts, hunter.after partner state tasks = { hunter with verdicts } := by
  induction tasks generalizing hunter state with
  | nil => exact ⟨hunter.verdicts, rfl⟩
  | cons task tasks ih =>
      obtain ⟨verdicts, hfirst⟩ := hunter.exists_verdicts_after partner state task
      rw [after_cons, hfirst]
      exact ih ..

theorem get?_after_of_some (tasks : List Task) {word : String} {length : Nat} {exist : Bool}
    (h : hunter.verdicts.get? word length = some exist) :
    (hunter.after partner state tasks).verdicts.get? word length = some exist := by
  induction tasks generalizing hunter state with
  | nil => exact h
  | cons task tasks ih =>
      rw [after_cons]
      exact ih _ (hunter.get?_pursue_of_some partner state task h)

theorem restOn_after (hdictionary : hunter.dictionary = some dictionary)
    (rests : hunter.verdicts.RestOn dictionary ledger) (tasks : List Task) :
    (hunter.after partner state tasks).verdicts.RestOn dictionary
      (ledger ++ hunter.allConsultations partner state tasks) := by
  induction tasks generalizing hunter state ledger with
  | nil => simpa [after_nil, allConsultations] using rests
  | cons task tasks ih =>
      obtain ⟨verdicts, hfirst⟩ := hunter.exists_verdicts_after partner state task
      have hpursued := hunter.restOn_pursue partner state hdictionary rests task
      rw [after_cons, allConsultations, ← List.append_assoc]
      refine ih _ ?_ hpursued
      rw [hfirst]
      exact hdictionary

theorem request_of_mem_allGatherings (tasks : List Task) :
    ∀ exchange ∈ hunter.allGatherings partner state tasks,
      (exchange.request.method = .post ∧
        ∃ scribe, hunter.scribe = some scribe ∧ exchange.request.url = scribe.endpoint) ∨
      ∃ seed length page,
        exchange.request = .get (hunter.harvester.catalogue.pageUrl seed length page) := by
  induction tasks generalizing hunter state with
  | nil => simp [allGatherings]
  | cons task tasks ih =>
      have hsends : (hunter.gather task).Sends fun request =>
          (request.method = .post ∧
            ∃ scribe, hunter.scribe = some scribe ∧ request.url = scribe.endpoint) ∨
          ∃ seed length page,
            request = .get (hunter.harvester.catalogue.pageUrl seed length page) := by
        apply hunter.gather_of_fetch Dialogue.compositional_sends
        · intro seed length page
          exact hunter.harvester.policy.sends_fetch (.inr ⟨seed, length, page, rfl⟩)
        · intro scribe text hscribe _
          exact scribe.policy.sends_fetch (.inl ⟨rfl, scribe, hscribe, rfl⟩)
      intro exchange hexchange
      rw [allGatherings, List.mem_append] at hexchange
      rcases hexchange with hgathered | hrest
      · exact hsends.of_mem_exchanges hgathered
      · -- The hunter that is left differs only in what it remembers.
        obtain ⟨verdicts, hfirst⟩ := hunter.exists_verdicts_after partner state task
        rw [hfirst] at hrest
        exact (ih ((hunter.pursue task).hold partner state).state exchange hrest :)

/--
A hunter with a dictionary that began with nothing asks about no word twice, however many tasks it
pursues and whatever it hears.  What it remembers is about words of the length in question, each
of which was asked about, and a word does not exist exactly if that was denied in time.  Nothing
of it changes or is forgotten by further tasks.  All else that it exchanges are posts to its scribe
and visits to the pages of its catalogue.
-/
theorem pursueAll_asks_once (hdictionary : hunter.dictionary = some dictionary)
    (hempty : hunter.verdicts = .empty) (tasks : List Task) :
    (hunter.allConsultations partner state tasks).Sublist
      ((hunter.pursueAll tasks).exchanges partner state) ∧
    ((hunter.pursueAll tasks).exchanges partner state).Perm
      (hunter.allConsultations partner state tasks ++ hunter.allGatherings partner state tasks) ∧
    (∀ exchange ∈ hunter.allGatherings partner state tasks,
      (exchange.request.method = .post ∧
        ∃ scribe, hunter.scribe = some scribe ∧ exchange.request.url = scribe.endpoint) ∨
      ∃ seed length page,
        exchange.request = .get (hunter.harvester.catalogue.pageUrl seed length page)) ∧
    ((hunter.allConsultations partner state tasks).map Exchange.request).Nodup ∧
    (∀ exchange ∈ hunter.allConsultations partner state tasks,
      ∃ word, IsCapitals word.toList ∧ exchange.request = dictionary.lookupRequest word) ∧
    (∀ word length exist,
      (hunter.after partner state tasks).verdicts.get? word length = some exist →
        IsCapitals word.toList ∧ word.length = length ∧
        ∃ exchange ∈ hunter.allConsultations partner state tasks,
          exchange.request = dictionary.lookupRequest word ∧
          (exist = false ↔ exchange.reply.Denies exchange.attempt.budget)) ∧
    ∀ more word length exist,
      (hunter.after partner state tasks).verdicts.get? word length = some exist →
        (hunter.after partner state (tasks ++ more)).verdicts.get? word length = some exist := by
  have rests := hunter.restOn_after partner state hdictionary
    (hempty ▸ Verdicts.restOn_empty dictionary) tasks
  rw [List.nil_append] at rests
  refine ⟨hunter.allConsultations_sublist partner state tasks,
    hunter.exchanges_pursueAll_perm partner state tasks,
    request_of_mem_allGatherings partner state tasks, rests.nodup, ?_, rests.remembered,
    fun more word length exist h => ?_⟩
  · intro exchange hexchange
    obtain ⟨word, hcapitals, hrequest, -⟩ := rests.looked_up exchange hexchange
    exact ⟨word, hcapitals, hrequest⟩
  · rw [after_append]
    exact get?_after_of_some partner _ more h

theorem pursueAll_asks_once_sample :
    let partner := Partner.script fun _ => { outcome := .timedOut }
    let replies := sampleReplies ++ [{ outcome := .response ⟨200, ""⟩ }] ++ sampleReplies
    let tasks : List Task := [.byLines "C AT 1", .byLines "C AT 1"]
    let ledger := sample.allConsultations partner replies tasks
    sample.dictionary = some ⟨"/", .ofSecs 1⟩ ∧ sample.verdicts = .empty ∧
      ledger.map Exchange.request = [.get "/chair", .get "/crane"] ∧
      (ledger.map Exchange.request).Nodup ∧
      ∃ exchange ∈ ledger, exchange.request = .get "/chair" ∧
        exchange.reply.Denies exchange.attempt.budget := by
  intro partner replies tasks ledger
  have hchair : (sample.after partner replies tasks).verdicts.get? "CHAIR" 5 = some false := by
    decide +kernel
  obtain ⟨-, -, -, hnodup, -, hremembered, -⟩ :=
    sample.pursueAll_asks_once partner replies rfl rfl tasks
  obtain ⟨-, -, exchange, hexchange, hrequest, hdenied⟩ := hremembered "CHAIR" 5 false hchair
  refine ⟨rfl, rfl, by decide +kernel, hnodup, exchange, hexchange, ?_, hdenied.mp rfl⟩
  rw [hrequest]
  decide +kernel

/-! ## With and without memory -/

section

variable {twin : Hunter} {entries : List Exchange} (other : Partner τ) (start : τ)

theorem confirmed_alike (hdictionary : hunter.dictionary = some dictionary)
    (htwin : twin.dictionary = some dictionary) (length : Nat) (words : List String)
    (rests : ((hunter.lookUp length words).hold partner state).value.verdicts.RestOn dictionary
      ledger)
    (rests' : ((twin.lookUp length words).hold other start).value.verdicts.RestOn dictionary
      entries)
    (halike : AnswersAlike (ledger ++ entries)) :
    hunter.confirmed length partner state words = twin.confirmed length other start words := by
  rw [← found_lookUp, ← found_lookUp]
  simp only [lookUp, hdictionary, htwin] at rests rests' ⊢
  -- Words are kept by the verdicts in the end, so it does not matter when these came to be known.
  rw [lookUpFrom_keeps, lookUpFrom_keeps]
  refine List.filter_congr fun word hword => ?_
  obtain ⟨exist, hexist⟩ := hunter.exists_get?_lookUpFrom dictionary length partner false state
    hunter.verdicts words hword
  obtain ⟨exist', hexist'⟩ := twin.exists_get?_lookUpFrom dictionary length other false start
    twin.verdicts words hword
  rw [hexist, hexist', rests.exist_eq rests' halike hexist hexist']

theorem gather_of_verdicts (verdicts : Verdicts) (task : Task) :
    { hunter with verdicts }.gather task = hunter.gather task :=
  gather_congr rfl rfl task

theorem pursue_alike {task : Task} (hdictionary : hunter.dictionary = some dictionary)
    (htwin : twin.dictionary = some dictionary) (hgather : twin.gather task = hunter.gather task)
    (rests : hunter.verdicts.RestOn dictionary ledger)
    (rests' : twin.verdicts.RestOn dictionary entries)
    (hreplies : ((hunter.gather task).exchanges partner state).map Exchange.reply =
      ((twin.gather task).exchanges other start).map Exchange.reply)
    (halike : AnswersAlike (ledger ++ hunter.consultations partner state task ++
      (entries ++ twin.consultations other start task))) :
    ((hunter.pursue task).hold partner state).value.1 =
      ((twin.pursue task).hold other start).value.1 := by
  have hgathers : ((hunter.gather task).hold partner state).value =
      ((twin.gather task).hold other start).value := by
    rw [hgather] at hreplies ⊢
    exact Dialogue.value_eq_of_replies_eq partner state other start _ hreplies
  have hafter := hunter.restOn_pursue partner state hdictionary rests task
  have hafter' := twin.restOn_pursue other start htwin rests' task
  cases hgathered : ((hunter.gather task).hold partner state).value with
  | ended ends =>
      rw [hunter.hold_pursue_of_ended partner state hgathered,
        twin.hold_pursue_of_ended other start (hgathers ▸ hgathered)]
  | kept clues seed harvest =>
      rw [hold_pursue_of_kept partner state hgathered, hold_conclude_value] at hafter ⊢
      rw [hold_pursue_of_kept other start (hgathers ▸ hgathered), hold_conclude_value] at hafter' ⊢
      simp only [confirmed_alike partner _ other _ hdictionary htwin _ _ hafter hafter' halike]

end

/--
If the dictionary always answers a request in the same manner, a hunter that has pursued other
tasks before comes to the same report or failure as one that begins with nothing and gets the same
replies from its scribe and its catalogue.
-/
theorem pursue_alike_whatever_remembered (other : Partner τ) (start : τ)
    (hdictionary : hunter.dictionary = some dictionary) (hempty : hunter.verdicts = .empty)
    (history : List Task) (task : Task)
    (hreplies :
      (((hunter.after partner state history).gather task).exchanges partner
          ((hunter.pursueAll history).hold partner state).state).map Exchange.reply =
        ((hunter.gather task).exchanges other start).map Exchange.reply)
    (halike : AnswersAlike
      (hunter.allConsultations partner state (history ++ [task]) ++
        hunter.consultations other start task)) :
    (((hunter.after partner state history).pursue task).hold partner
        ((hunter.pursueAll history).hold partner state).state).value.1 =
      ((hunter.pursue task).hold other start).value.1 := by
  have rests' := hempty ▸ Verdicts.restOn_empty dictionary
  have rests := hunter.restOn_after partner state hdictionary rests' history
  obtain ⟨verdicts, hafter⟩ := hunter.exists_verdicts_after_all partner state history
  refine pursue_alike partner _ other start ?_ hdictionary ?_ rests rests' hreplies ?_
  · rw [hafter]
    exact hdictionary
  · rw [hafter]
    exact (hunter.gather_of_verdicts verdicts task).symm
  · rw [allConsultations_append] at halike
    simpa [allConsultations] using halike

theorem pursue_alike_whatever_remembered_sample :
    let partner := Partner.script fun _ => { outcome := .timedOut }
    let fresh := sampleReplies ++ [{ outcome := .response ⟨200, "an entry"⟩ }]
    let replies := sampleReplies ++ [{ outcome := .response ⟨200, ""⟩ }] ++ sampleReplies.take 1
    let history : List Task := [.byLines "C AT 1"]
    let later := sample.after partner replies history
    let state := ((sample.pursueAll history).hold partner replies).state
    (later.gather (.byLines "C AT 1")).exchanges partner state ≠ [] ∧
      sample.consultations partner fresh (.byLines "C AT 1") ≠ [] ∧
      later.consultations partner state (.byLines "C AT 1") = [] ∧
      ((later.pursue (.byLines "C AT 1")).hold partner state).value.1 =
        ((sample.pursue (.byLines "C AT 1")).hold partner fresh).value.1 := by
  intro partner fresh replies history later state
  refine ⟨by decide +kernel, by decide +kernel, by decide +kernel, ?_⟩
  exact sample.pursue_alike_whatever_remembered partner replies partner fresh rfl rfl history
    (.byLines "C AT 1") (by decide +kernel) (by decide +kernel)

end Hunter

end WordHunt
