import WordHunt.Proofs.Catalogue.Words
import WordHunt.Proofs.Hunt.LookUp
import WordHunt.Proofs.Screening

/-!
# What a report says

A report with a diagnostic counts nothing.  A report without one accounts for every word that the
catalogue served: each is found, turned away by the clues under some kind, or turned away by the
dictionary, and none twice.
-/

namespace WordHunt

variable {σ : Type}

namespace Hunter

/-! ## Alphabetical order -/

theorem insertWord_eq_orderedInsert (word : String) (words : List String) :
    insertWord word words = words.orderedInsert (· ≤ ·) word := by
  induction words with
  | nil => rfl
  | cons other words ih => rw [insertWord, List.orderedInsert_cons, ih]

theorem alphabetical_eq_insertionSort (words : List String) :
    alphabetical words = words.insertionSort (· ≤ ·) := by
  induction words with
  | nil => rfl
  | cons word words ih =>
      rw [List.insertionSort_cons, ← ih, ← insertWord_eq_orderedInsert]
      rfl

theorem mem_alphabetical {word : String} {words : List String} :
    word ∈ alphabetical words ↔ word ∈ words := by
  rw [alphabetical_eq_insertionSort, List.mem_insertionSort]

theorem alphabetical_of_sortedLT {words : List String} (h : words.SortedLT) :
    alphabetical words = words := by
  rw [alphabetical_eq_insertionSort, h.sortedLE.pairwise.insertionSort_eq]

variable (hunter : Hunter) (clues : Clues) (partner : Partner σ) (state : σ)

/-! ## How a hunt ends -/

theorem hold_conclude_value (seed : Seed) (harvest : Harvest) :
    ((hunter.conclude clues seed harvest).hold partner state).value =
      let screening := clues.screen harvest.words.toList
      let found := hunter.confirmed clues.length partner state screening.accepted
      (.ok
        { clues
          seed := some seed
          found := alphabetical found
          collected := harvest.words.toList.length
          pages := harvest.pages
          rejected := screening.rejected
          tally := screening.tally
          unknown := screening.accepted.length - found.length },
        { hunter with
          verdicts :=
            ((hunter.lookUp clues.length screening.accepted).hold partner state).value.verdicts
          }) := by
  simp only [conclude, Dialogue.hold_seq, Dialogue.hold_pure, found_lookUp, unknown_lookUp]

theorem huntClues_cases {report : Report} {after : Hunter}
    (h : ((hunter.huntClues clues).hold partner state).value = (.ok report, after)) :
    (clues.seed? = none ∧ report = { clues, diagnostic := some .noSeed } ∧ after = hunter) ∨
    ∃ seed harvest, clues.seed? = some seed ∧
      ((hunter.harvester.harvest seed clues.length).hold partner state).value = .ok harvest ∧
      ((∃ page reason, harvest.abandoned = some ⟨page, reason⟩ ∧
          report =
            { clues
              seed := some seed
              pages := harvest.pages
              diagnostic := some (.abandoned seed page reason) } ∧
          after = hunter) ∨
        (harvest.abandoned = none ∧
          ((hunter.conclude clues seed harvest).hold partner
            ((hunter.harvester.harvest seed clues.length).hold partner state).state).value =
              (.ok report, after))) := by
  rw [huntClues] at h
  cases hseed : clues.seed? with
  | none =>
      rw [hseed] at h
      obtain ⟨hreport, hafter⟩ := Prod.mk.inj h
      exact .inl ⟨rfl, (Except.ok.inj hreport).symm, hafter.symm⟩
  | some seed =>
      simp only [hseed, Dialogue.hold_seq] at h
      refine .inr ⟨seed, ?_⟩
      cases hharvest : ((hunter.harvester.harvest seed clues.length).hold partner state).value with
      | error failure =>
          rw [hharvest] at h
          cases (Prod.mk.inj h).1
      | ok harvest =>
          rw [hharvest] at h
          refine ⟨harvest, rfl, rfl, ?_⟩
          cases habandoned : harvest.abandoned with
          | some abandonment =>
              simp only [habandoned, Dialogue.hold_pure] at h
              obtain ⟨hreport, hafter⟩ := Prod.mk.inj h
              exact .inl ⟨abandonment.page, abandonment.reason, rfl,
                (Except.ok.inj hreport).symm, hafter.symm⟩
          | none =>
              simp only [habandoned] at h
              exact .inr ⟨rfl, h⟩

/-! ## The account of a report -/

/--
A report that accounts for the words served: the dictionary, if there is one, is asked from
`state` on.
-/
structure Accounts (served : Set String) (report : Report) : Prop where
  collected : served.encard = report.collected
  sorted : report.found.SortedLT
  mem_found : hunter.dictionary = none →
    ∀ word, word ∈ report.found ↔ word ∈ served ∧ clues.violation? word = none
  mem_found_dictionary : ∀ dictionary, hunter.dictionary = some dictionary →
    ∃ fitting : List String, fitting.SortedLT ∧
      (∀ word, word ∈ fitting ↔ word ∈ served ∧ clues.violation? word = none) ∧
      ∀ word, word ∈ report.found ↔ ∃ verdict,
        (word, verdict) ∈
          dictionary.rulings clues.length partner state hunter.verdicts fitting ∧ verdict.exist
  total : report.collected = report.found.length + report.rejected + report.unknown
  rejected : report.rejected = (report.tally.map Prod.snd).sum
  tally : ∀ kind count, (kind, count) ∈ report.tally → 0 < count ∧ kind ≠ .length

variable {hunter clues partner state}

theorem accounts_of_conclude {seed : Seed} {harvest : Harvest} {report : Report} {after : Hunter}
    (hwords : ∀ word ∈ harvest.words, Text.IsCapitals word.toList ∧ word.length = clues.length)
    (h : ((hunter.conclude clues seed harvest).hold partner state).value = (.ok report, after)) :
    hunter.Accounts clues partner state {word | word ∈ harvest.words} report := by
  rw [hold_conclude_value] at h
  obtain ⟨hreport, -⟩ := Prod.mk.inj h
  obtain rfl := Except.ok.inj hreport
  have haccepted : (clues.screen harvest.words.toList).accepted =
      harvest.words.toList.filter clues.fits :=
    clues.accepted_of_isCapitals _ fun word hword =>
      (hwords word (Std.ExtTreeSet.mem_toList.mp hword)).1
  have hsorted : (harvest.words.toList.filter clues.fits).SortedLT :=
    (harvest.sortedLT_words.pairwise.sublist List.filter_sublist).sortedLT
  have hmem (word : String) : word ∈ harvest.words.toList.filter clues.fits ↔
      word ∈ {word | word ∈ harvest.words} ∧ clues.violation? word = none := by
    simp [Clues.fits]
  have hfound := hunter.confirmed_sublist clues.length partner state
    (harvest.words.toList.filter clues.fits)
  -- What is found was in order before it was sorted.
  have hordered := (hsorted.pairwise.sublist hfound).sortedLT
  have hsplit := clues.length_accepted_add_rejected harvest.words.toList
  rw [haccepted] at hsplit
  constructor <;> simp only [haccepted, alphabetical_of_sortedLT hordered]
  · exact harvest.encard_words
  · exact hordered
  · intro hdictionary word
    rw [hunter.confirmed_of_no_dictionary _ _ hdictionary, hmem]
  · intro dictionary hdictionary
    refine ⟨_, hsorted, hmem, fun word => ?_⟩
    rw [confirmed, hdictionary, mem_existing]
  · have hle := hfound.length_le
    omega
  · exact (Screening.sum_tally _).symm
  · intro kind count hentry
    obtain ⟨hcount, violation, hviolation, hkind⟩ := Screening.mem_tally _ hentry
    obtain ⟨word, hword, hviolates⟩ := List.mem_filterMap.mp hviolation
    have hlength := (hwords word (Std.ExtTreeSet.mem_toList.mp hword)).2
    exact ⟨hcount, hkind ▸ clues.kind_ne_length hlength hviolates⟩

/--
A report with a diagnostic counts nothing.  Any other report names the settled letter with the
lowest position as its seed and accounts for the words of all pages that the seed's harvest
fetched with success.
-/
theorem huntLines_accounts {text : String} {report : Report} {after : Hunter}
    (h : ((hunter.huntLines text).hold partner state).value = (.ok report, after)) :
    let clues := Clues.ofText text
    report.clues = clues ∧
    (report.diagnostic ≠ none →
      report.found = [] ∧ report.tally = [] ∧
        report.collected = 0 ∧ report.rejected = 0 ∧ report.unknown = 0) ∧
    (report.diagnostic = none → ∃ seed, report.seed = some seed ∧
      clues.exact[seed.position]? = some seed.letter ∧
      (∀ position letter, clues.exact[position]? = some letter → seed.position ≤ position) ∧
      hunter.Accounts clues partner
        ((hunter.harvester.harvest seed clues.length).hold partner state).state
        (hunter.harvester.served seed clues.length partner state) report) := by
  intro clues
  rcases hunter.huntClues_cases clues partner state h with
    ⟨-, rfl, -⟩ | ⟨seed, harvest, hseed, hharvest, hends⟩
  · simp
  · rcases hends with ⟨page, reason, -, rfl, -⟩ | ⟨hkept, hconclude⟩
    · simp
    · have hserved : {word | word ∈ harvest.words} =
          hunter.harvester.served seed clues.length partner state :=
        Set.ext fun word => Harvester.mem_words_iff_mem_served hharvest hkept
      have haccounts := accounts_of_conclude (fun word hword =>
        have hmem := (Harvester.mem_words_iff_mem_served hharvest hkept).mp hword
        ⟨Harvester.isCapitals_of_mem_served hmem, Harvester.length_of_mem_served hmem⟩) hconclude
      rw [hserved] at haccounts
      rw [hold_conclude_value] at hconclude
      obtain ⟨hreport, -⟩ := Prod.mk.inj hconclude
      obtain rfl := Except.ok.inj hreport
      obtain ⟨hletter, hlowest⟩ := (clues.seed?_eq_some_iff seed).mp hseed
      exact ⟨rfl, fun hne => absurd rfl hne, fun _ => ⟨seed, rfl, hletter, hlowest, haccounts⟩⟩

def sample : Hunter where
  scribe := none
  harvester := ⟨⟨"/", ""⟩, .catalogue, .zero⟩
  dictionary := some ⟨"/", .ofSecs 1⟩
  lookupDelay := .zero

def sampleReplies : List Reply :=
  [{ outcome := .response ⟨200, "CR<b>A</b>NE BRICK CHAIR"⟩ }, { outcome := .response ⟨404, ""⟩ }]

theorem huntLines_accounts_sample :
    let partner := Partner.script fun _ => { outcome := .timedOut }
    let report : Report :=
      { clues := .ofText "C AT 1"
        seed := some ⟨'C', 0⟩
        found := ["CRANE"]
        collected := 3
        pages := 1
        rejected := 1
        tally := [(.exact, 1)]
        unknown := 1 }
    let after : Hunter :=
      { sample with
        verdicts := (Verdicts.empty.insert "CHAIR" 5 false).insert "CRANE" 5 true }
    ((sample.huntLines "C AT 1").hold partner sampleReplies).value = (.ok report, after) ∧
      ∃ seed, report.seed = some seed ∧
        sample.Accounts report.clues partner
          ((sample.harvester.harvest seed report.clues.length).hold partner sampleReplies).state
          (sample.harvester.served seed report.clues.length partner sampleReplies) report := by
  intro partner report after
  have hvalue :
      ((sample.huntLines "C AT 1").hold partner sampleReplies).value = (.ok report, after) := by
    decide +kernel
  obtain ⟨-, -, haccounts⟩ := huntLines_accounts hvalue
  obtain ⟨seed, hseed, -, -, haccounts⟩ := haccounts rfl
  exact ⟨hvalue, seed, hseed, haccounts⟩

end Hunter

end WordHunt
