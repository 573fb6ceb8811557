import Std.Data.ExtTreeSet
import WordHunt.Catalogue.Address
import WordHunt.Exchange.Retry
import WordHunt.Page.Basic

/-!
Harvesting a catalogue.  The pages of a seed are fetched in the order of their numbers, starting
with the first, and a page is followed by the next one only if it names that very page as its
next.  Between pages there is a pause.  A page after the first that is not found ends the
harvest; if such a page fails in another way the harvest is abandoned and no word is kept.
Failure of the first page is a failure of the harvest.
-/

namespace WordHunt

inductive Cursor where
  | at (page : Nat)
  | done
  deriving DecidableEq, Repr

namespace Cursor

def start : Cursor :=
  .at 1

def advance : Cursor → (declared : Option Nat) → Cursor
  | .at page, some next =>
      if page + 1 = next ∧ next < Page.pageBound then .at next else .done
  | _, _ => .done

theorem advance_eq_at {page next : Nat} {declared : Option Nat}
    (h : (Cursor.at page).advance declared = .at next) :
    next = page + 1 ∧ next < Page.pageBound := by
  cases declared with
  | none => simp [advance] at h
  | some declared =>
      simp only [advance] at h
      split at h
      next hnext =>
        cases h
        exact ⟨hnext.1.symm, hnext.2⟩
      next => cases h

end Cursor

structure Abandonment where
  page : Nat
  reason : String
  deriving DecidableEq, Repr

/-- What a harvest yields; nothing but the number of pages if it was abandoned. -/
structure Harvest where
  words : Std.ExtTreeSet String := ∅
  pages : Nat := 0
  abandoned : Option Abandonment := none
  deriving DecidableEq

def Harvest.withPage (harvest : Harvest) (words : List String) : Harvest :=
  { harvest with words := harvest.words.insertMany words, pages := harvest.pages + 1 }

structure Harvester where
  catalogue : Catalogue
  policy : RetryPolicy
  pageDelay : Duration
  deriving DecidableEq, Repr

namespace Harvester

def defaultPageDelay : Duration :=
  .ofMillis 500

def fetchPage (harvester : Harvester) (seed : Seed) (length page : Nat) :
    Dialogue (Except Failure Response) :=
  harvester.policy.fetch (.get (harvester.catalogue.pageUrl seed length page))

def waitFor (harvester : Harvester) {α : Type} (page : Nat)
    (next : Dialogue α) : Dialogue α :=
  if 1 < page then .pause harvester.pageDelay next else next

def harvestFrom (harvester : Harvester) (seed : Seed) (length : Nat) (harvest : Harvest)
    (page : Nat) : Dialogue (Except Failure Harvest) :=
  harvester.waitFor page do
    match ← harvester.fetchPage seed length page with
    | .error failure =>
        if page ≤ 1 then return .error failure
        else if failure.isNotFound then return .ok harvest
        else
          .warn "page failed, abandoning seed"
            (return .ok
              { pages := harvest.pages, abandoned := some ⟨page, failure.message⟩ })
    | .ok response =>
        let found := Page.ofBody length response.body
        let harvest := harvest.withPage found.words
        match _h : (Cursor.at page).advance found.nextPage with
        | .done => return .ok harvest
        | .at next => harvester.harvestFrom seed length harvest next
termination_by Page.pageBound - page
decreasing_by
  have := Cursor.advance_eq_at _h
  omega

def harvest (harvester : Harvester) (seed : Seed) (length : Nat) :
    Dialogue (Except Failure Harvest) :=
  harvester.harvestFrom seed length {} 1

end Harvester

end WordHunt
