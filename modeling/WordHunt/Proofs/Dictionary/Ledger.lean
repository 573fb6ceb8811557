import WordHunt.Dictionary.Lookup
import WordHunt.Proofs.Exchange.Exchanges
import WordHunt.Proofs.Text.Capitals

/-!
# What remembered verdicts rest on

A word is looked up by one exchange, and only if nothing is remembered about it.  So verdicts rest
on a ledger of exchanges: no request occurs twice in it, every word looked up is remembered, and
every verdict remembered is that of the one exchange about its word.
-/

namespace WordHunt

open Text

variable {σ : Type}

/-! ## One look-up -/

/-- The dictionary says in time that it has no such entry. -/
def Reply.Denies (reply : Reply) (budget : Duration) : Prop :=
  ∃ response, reply.Brings budget response ∧ response.status = 404

/-- What a reply comes to when the texts in it do not matter. -/
inductive Manner where
  | late
  | status (status : Nat)
  | timedOut
  | unreachable
  deriving DecidableEq, Repr

def Exchange.manner (exchange : Exchange) : Manner :=
  if exchange.attempt.isOver exchange.reply.cancelled exchange.reply.elapsed then .late
  else
    match exchange.reply.outcome with
    | .response response => .status response.status
    | .timedOut => .timedOut
    | .unreachable _ => .unreachable

theorem Exchange.manner_eq_iff_denies (exchange : Exchange) :
    exchange.manner = .status 404 ↔ exchange.reply.Denies exchange.attempt.budget := by
  simp only [Reply.Denies, Reply.Brings, ← exchange.attempt.isOver_eq_false_iff, manner]
  cases exchange.attempt.isOver exchange.reply.cancelled exchange.reply.elapsed <;>
    cases exchange.reply.outcome <;> simp

/-- A request that is made again is answered in the same manner. -/
def AnswersAlike (exchanges : List Exchange) : Prop :=
  ∀ first ∈ exchanges, ∀ second ∈ exchanges,
    first.request = second.request → first.manner = second.manner

instance (exchanges : List Exchange) : Decidable (AnswersAlike exchanges) :=
  inferInstanceAs (Decidable (∀ first ∈ exchanges, ∀ second ∈ exchanges,
    first.request = second.request → first.manner = second.manner))

namespace Dictionary

theorem exist_judge_eq_false_iff (attempt : Attempt) (reply : Reply) :
    (judge attempt reply).1.exist = false ↔ reply.Denies attempt.budget := by
  by_cases hinTime : reply.IsInTime attempt.budget
  · have hover := attempt.isOver_eq_false_iff.mpr hinTime
    cases houtcome : reply.outcome with
    | response response =>
        by_cases hfound : response.status = 200
        · simp [judge, hover, houtcome, hfound, Verdict.exist, Reply.Denies, Reply.Brings]
        · by_cases hmissing : response.status = 404 <;>
            simp [judge, hover, houtcome, hfound, hmissing, hinTime, Verdict.exist, Reply.Denies,
              Reply.Brings]
    | timedOut => simp [judge, hover, houtcome, Verdict.exist, Reply.Denies, Reply.Brings]
    | unreachable reason =>
        simp [judge, hover, houtcome, Verdict.exist, Reply.Denies, Reply.Brings]
  · have hover : attempt.isOver reply.cancelled reply.elapsed = true := by
      simpa [← attempt.isOver_eq_false_iff] using hinTime
    simp [judge, hover, hinTime, Verdict.exist, Reply.Denies, Reply.Brings]

variable (dictionary : Dictionary) (partner : Partner σ) (state : σ)

def consultation (word : String) : Exchange where
  request := dictionary.lookupRequest word
  attempt := ⟨1, dictionary.budget⟩
  reply := (partner.answer state (dictionary.lookupRequest word) ⟨1, dictionary.budget⟩).1

theorem exchanges_lookup (word : String) :
    (dictionary.lookup word).exchanges partner state =
      [dictionary.consultation partner state word] := by
  rw [lookup]
  simp only [Dialogue.exchanges]
  split <;> rfl

theorem exist_hold_lookup_eq_false_iff (word : String) :
    ((dictionary.lookup word).hold partner state).value.exist = false ↔
      (dictionary.consultation partner state word).reply.Denies dictionary.budget := by
  rw [consultation, ← exist_judge_eq_false_iff ⟨1, dictionary.budget⟩, lookup]
  simp only [Dialogue.hold]
  split <;> simp_all [Dialogue.hold]

theorem lookupRequest_inj {word other : String} (hword : IsCapitals word.toList)
    (hother : IsCapitals other.toList) :
    dictionary.lookupRequest word = dictionary.lookupRequest other ↔ word = other := by
  constructor
  · intro h
    have hurl : dictionary.lookupUrl ++ lowerCase word = dictionary.lookupUrl ++ lowerCase other :=
      congrArg Request.url h
    exact (lowerCase_inj hword hother).mp (String.append_right_inj _ |>.mp hurl)
  · exact congrArg dictionary.lookupRequest

variable (verdicts : Verdicts) {word : String} {length : Nat}

theorem check_of_remembered {exist : Bool} (h : verdicts.get? word length = some exist) :
    dictionary.check verdicts word length = .done (.remembered exist, verdicts) := by
  simp only [check, h]

theorem check_of_forgotten (h : verdicts.get? word length = none) (hlength : word.length = length) :
    dictionary.check verdicts word length = do
      let verdict ← dictionary.lookup word
      return (verdict, verdicts.insert word length verdict.exist) := by
  simp only [check, h, decideOn, if_pos hlength]

theorem check_of_mismatch (h : verdicts.get? word length = none) (hlength : word.length ≠ length) :
    dictionary.check verdicts word length =
      .done (.lengthMismatch, verdicts.insert word length false) := by
  simp only [check, h, decideOn, if_neg hlength]
  rfl

theorem exchanges_check (word : String) (length : Nat) :
    (dictionary.check verdicts word length).exchanges partner state =
      if verdicts.get? word length = none ∧ word.length = length then
        [dictionary.consultation partner state word]
      else [] := by
  cases hentry : verdicts.get? word length with
  | some exist => simp [dictionary.check_of_remembered verdicts hentry]
  | none =>
      by_cases hlength : word.length = length
      · rw [dictionary.check_of_forgotten verdicts hentry hlength, Dialogue.exchanges_seq,
          dictionary.exchanges_lookup, if_pos ⟨rfl, hlength⟩]
        rfl
      · rw [dictionary.check_of_mismatch verdicts hentry hlength, if_neg (by simp [hlength])]
        rfl

theorem verdicts_check (word : String) (length : Nat) :
    ((dictionary.check verdicts word length).hold partner state).value.2 =
      if verdicts.get? word length = none then
        verdicts.insert word length
          ((dictionary.check verdicts word length).hold partner state).value.1.exist
      else verdicts := by
  cases hentry : verdicts.get? word length with
  | some exist =>
      rw [dictionary.check_of_remembered verdicts hentry]
      rfl
  | none => simp [check, hentry, Dialogue.hold_seq, Dialogue.hold_pure]

theorem exist_check_eq_false_iff (h : verdicts.get? word length = none) :
    ((dictionary.check verdicts word length).hold partner state).value.1.exist = false ↔
      word.length ≠ length ∨
        (dictionary.consultation partner state word).reply.Denies dictionary.budget := by
  by_cases hlength : word.length = length
  · simp only [dictionary.check_of_forgotten verdicts h hlength, Dialogue.hold_seq,
      Dialogue.hold_pure, dictionary.exist_hold_lookup_eq_false_iff]
    simp [hlength]
  · rw [dictionary.check_of_mismatch verdicts h hlength]
    simp [hlength, Verdict.exist]

theorem get?_check_of_ne {other : String} {size : Nat} (h : ¬ (other = word ∧ size = length)) :
    ((dictionary.check verdicts word length).hold partner state).value.2.get? other size =
      verdicts.get? other size := by
  rw [dictionary.verdicts_check]
  split
  · rw [Verdicts.get?_insert, if_neg h]
  · rfl

theorem get?_check_of_some {other : String} {size : Nat} {exist : Bool}
    (h : verdicts.get? other size = some exist) :
    ((dictionary.check verdicts word length).hold partner state).value.2.get? other size =
      some exist := by
  by_cases hsame : other = word ∧ size = length
  · obtain ⟨rfl, rfl⟩ := hsame
    rw [dictionary.check_of_remembered verdicts h]
    exact h
  · rw [dictionary.get?_check_of_ne partner state verdicts hsame, h]

theorem get?_check :
    ((dictionary.check verdicts word length).hold partner state).value.2.get? word length =
      some ((dictionary.check verdicts word length).hold partner state).value.1.exist := by
  cases hword : verdicts.get? word length with
  | some known =>
      rw [dictionary.check_of_remembered verdicts hword]
      exact hword
  | none =>
      rw [dictionary.verdicts_check, if_pos hword, Verdicts.get?_insert, if_pos ⟨rfl, rfl⟩]

end Dictionary

/-! ## The ledger -/

/-- The verdicts remembered are those of a ledger's look-ups, each word looked up once. -/
structure Verdicts.RestOn (dictionary : Dictionary) (verdicts : Verdicts)
    (ledger : List Exchange) : Prop where
  nodup : (ledger.map Exchange.request).Nodup
  looked_up : ∀ exchange ∈ ledger, ∃ word, IsCapitals word.toList ∧
    exchange.request = dictionary.lookupRequest word ∧
    verdicts.get? word word.length ≠ none
  remembered : ∀ word length exist, verdicts.get? word length = some exist →
    IsCapitals word.toList ∧ word.length = length ∧
      ∃ exchange ∈ ledger, exchange.request = dictionary.lookupRequest word ∧
        (exist = false ↔ exchange.reply.Denies exchange.attempt.budget)

namespace Verdicts

variable {dictionary : Dictionary} {verdicts : Verdicts} {ledger : List Exchange}

theorem restOn_empty (dictionary : Dictionary) : Verdicts.empty.RestOn dictionary [] := by
  refine ⟨List.nodup_nil, by simp, fun word length exist h => ?_⟩
  simp [get?, empty] at h

theorem RestOn.request_notMem (rests : verdicts.RestOn dictionary ledger) {word : String}
    (hcapitals : IsCapitals word.toList) (hnew : verdicts.get? word word.length = none) :
    dictionary.lookupRequest word ∉ ledger.map Exchange.request := by
  intro hmem
  obtain ⟨exchange, hexchange, hrequest⟩ := List.mem_map.mp hmem
  obtain ⟨other, hother, hasked, hknown⟩ := rests.looked_up exchange hexchange
  have hsame := (dictionary.lookupRequest_inj hother hcapitals).mp (hasked.symm.trans hrequest)
  exact hknown (hsame ▸ hnew)

theorem RestOn.insert (rests : verdicts.RestOn dictionary ledger) {word : String}
    (hcapitals : IsCapitals word.toList) (hnew : verdicts.get? word word.length = none)
    {exchange : Exchange} (hrequest : exchange.request = dictionary.lookupRequest word)
    {exist : Bool} (hexist : exist = false ↔ exchange.reply.Denies exchange.attempt.budget) :
    (verdicts.insert word word.length exist).RestOn dictionary (ledger ++ [exchange]) := by
  refine ⟨?_, fun other hother => ?_, fun other length known hother => ?_⟩
  · rw [List.map_append, List.nodup_append]
    have hnotMem := rests.request_notMem hcapitals hnew
    refine ⟨rests.nodup, by simp, fun request hmem asked hasked => ?_⟩
    rw [List.map_singleton, List.mem_singleton, hrequest] at hasked
    rintro rfl
    exact hnotMem (hasked ▸ hmem)
  · rcases List.mem_append.mp hother with hmem | hmem
    · obtain ⟨asked, hcapital, hasked, hknown⟩ := rests.looked_up other hmem
      refine ⟨asked, hcapital, hasked, ?_⟩
      rw [get?_insert]
      split
      · simp
      · exact hknown
    · obtain rfl := List.mem_singleton.mp hmem
      exact ⟨word, hcapitals, hrequest, by simp [get?_insert]⟩
  · rw [get?_insert] at hother
    split at hother
    next hsame =>
      obtain ⟨rfl, rfl⟩ := hsame
      obtain rfl := Option.some.inj hother
      exact ⟨hcapitals, rfl, exchange, by simp, hrequest, hexist⟩
    next =>
      obtain ⟨hcapital, hlength, known, hmem, hknown⟩ := rests.remembered _ _ _ hother
      exact ⟨hcapital, hlength, known, List.mem_append_left _ hmem, hknown⟩

theorem RestOn.check (rests : verdicts.RestOn dictionary ledger) (partner : Partner σ) (state : σ)
    {word : String} (hcapitals : IsCapitals word.toList) :
    let check := dictionary.check verdicts word word.length
    (check.hold partner state).value.2.RestOn dictionary
      (ledger ++ check.exchanges partner state) := by
  intro check
  cases hword : verdicts.get? word word.length with
  | some known =>
      have hcheck := dictionary.check_of_remembered verdicts hword
      simpa [check, hcheck] using rests
  | none =>
      have hcheck := dictionary.check_of_forgotten verdicts hword rfl
      have hexist := dictionary.exist_hold_lookup_eq_false_iff partner state word
      simp only [check, hcheck, Dialogue.hold_seq, Dialogue.hold_pure, Dialogue.exchanges_seq,
        Dialogue.exchanges_pure, List.append_nil, dictionary.exchanges_lookup]
      exact rests.insert hcapitals hword rfl hexist

theorem RestOn.exist_eq {others : Verdicts} {entries : List Exchange}
    (rests : verdicts.RestOn dictionary ledger) (rests' : others.RestOn dictionary entries)
    (halike : AnswersAlike (ledger ++ entries)) {word : String} {length : Nat}
    {exist exist' : Bool} (h : verdicts.get? word length = some exist)
    (h' : others.get? word length = some exist') : exist = exist' := by
  obtain ⟨-, -, exchange, hexchange, hrequest, hexist⟩ := rests.remembered _ _ _ h
  obtain ⟨-, -, exchange', hexchange', hrequest', hexist'⟩ := rests'.remembered _ _ _ h'
  have hmanner : exchange.manner = exchange'.manner :=
    halike _ (List.mem_append_left _ hexchange) _ (List.mem_append_right _ hexchange')
      (hrequest.trans hrequest'.symm)
  rw [← exchange.manner_eq_iff_denies, hmanner, exchange'.manner_eq_iff_denies, ← hexist']
    at hexist
  cases exist <;> cases exist' <;> simp_all

end Verdicts

end WordHunt
