import Mathlib.Data.List.Sort
import Mathlib.Data.Set.Card
import Mathlib.Data.String.Basic
import WordHunt.Proofs.Catalogue.Chain
import WordHunt.Proofs.Page.Words

/-!
# The words that a harvest gathers

A harvest that is kept holds the words of all pages that were fetched with success, each once and
in alphabetical order.
-/

namespace WordHunt

variable {σ : Type}

theorem mem_responses {visit : Nat → Transcript σ (Except Failure Response)} {pages : List Nat}
    {response : Response} :
    response ∈ responses visit pages ↔ ∃ page ∈ pages, (visit page).value = .ok response := by
  rw [responses, List.mem_filterMap]
  refine exists_congr fun page => and_congr_right fun _ => ?_
  cases (visit page).value <;> simp [Except.toOption]

namespace Harvest

variable (harvest : Harvest)

theorem sortedLT_words : harvest.words.toList.SortedLT := by
  have hlt {first second : String} (h : compare first second = .lt) : first < second :=
    compareOfLessAndEq_eq_lt.mp h
  exact (harvest.words.ordered_toList.imp hlt).sortedLT

theorem encard_words : {word | word ∈ harvest.words}.encard = harvest.words.toList.length := by
  have hset : {word | word ∈ harvest.words} = (harvest.words.toList.toFinset : Set String) := by
    ext word
    simp
  rw [hset, Set.encard_coe_eq_coe_finsetCard,
    List.toFinset_card_of_nodup harvest.sortedLT_words.nodup]

end Harvest

namespace Harvester

variable (harvester : Harvester) (seed : Seed) (length : Nat) (partner : Partner σ) (state : σ)

def served : Set String :=
  let visit := partner.turn (harvester.fetchPage seed length) 1 state
  {word | ∃ page response, Reaches visit page ∧ (visit page).value = .ok response ∧
    word ∈ Page.wordsIn length response.body}

variable {harvester seed length partner state} {word : String}

theorem isCapitals_of_mem_served (h : word ∈ harvester.served seed length partner state) :
    Text.IsCapitals word.toList := by
  obtain ⟨page, response, -, -, hword⟩ := h
  exact Page.isCapitals_of_mem_wordsIn hword

theorem length_of_mem_served (h : word ∈ harvester.served seed length partner state) :
    word.length = length := by
  obtain ⟨page, response, -, -, hword⟩ := h
  exact Page.length_of_mem_wordsIn hword

theorem Walk.eq_withResponses {first last : Nat} {before harvest : Harvest}
    {harvested : Transcript σ (Except Failure Harvest)}
    (walk : Walk harvester seed length partner state first before harvested last)
    (hvalue : harvested.value = .ok harvest) (hkept : harvest.abandoned = none) :
    harvest = before.withResponses length
      (responses (partner.turn (harvester.fetchPage seed length) first state)
        (List.range' first (last + 1 - first))) := by
  rw [walk.value] at hvalue
  cases hlast : (partner.turn (harvester.fetchPage seed length) first state last).value with
  | ok response =>
      rw [hlast, Harvest.afterLast] at hvalue
      exact (Except.ok.inj hvalue).symm
  | error failure =>
      rw [hlast, Harvest.afterLast] at hvalue
      by_cases hpage : last ≤ 1
      · simp [hpage] at hvalue
      · by_cases hfailure : failure.isNotFound
        · simpa [hpage, hfailure, eq_comm] using hvalue
        · simp only [hpage, hfailure, if_false, Bool.false_eq_true, Except.ok.injEq] at hvalue
          rw [← hvalue] at hkept
          contradiction

theorem mem_words_iff_mem_served {harvest : Harvest}
    (hvalue : ((harvester.harvest seed length).hold partner state).value = .ok harvest)
    (hkept : harvest.abandoned = none) :
    word ∈ harvest.words ↔ word ∈ harvester.served seed length partner state := by
  obtain ⟨last, walk⟩ := harvester.exists_walk seed length partner {} 1 state
  rw [walk.eq_withResponses hvalue hkept, Harvest.mem_withResponses]
  simp only [Std.ExtTreeSet.not_mem_empty, false_or, mem_responses, served, Set.mem_ofPred_eq,
    walk.reaches_iff, List.mem_range'_1]
  constructor
  · rintro ⟨response, ⟨page, hpage, hresponse⟩, hword⟩
    exact ⟨page, response, by omega, hresponse, hword⟩
  · rintro ⟨page, response, hpage, hresponse, hword⟩
    exact ⟨response, ⟨page, by omega, hresponse⟩, hword⟩

end Harvester

end WordHunt
