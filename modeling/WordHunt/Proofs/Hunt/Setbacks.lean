import WordHunt.Proofs.Exchange.Delayed
import WordHunt.Proofs.Hunt.Composition

/-!
# Hunts that meet with setbacks

Without a dictionary a hunter talks to the scribe and to the catalogue only, and to both by way of
fetches.  So setbacks that its fetches bear leave no trace in what a hunt comes to.
-/

namespace WordHunt

/-! ## Hunts are made of fetches -/

namespace Hunter

variable (hunter : Hunter)

/--
The policy by which a hunter fetches: that of the scribe, to whom alone something is posted, or
that of the harvester.
-/
def policyFor (request : Request) : RetryPolicy :=
  match request.method, hunter.scribe with
  | .post, some scribe => scribe.policy
  | _, _ => hunter.harvester.policy

theorem policyFor_get (url : String) :
    hunter.policyFor (.get url) = hunter.harvester.policy := rfl

theorem policyFor_scribe {scribe : Scribe} (h : hunter.scribe = some scribe) (text : String) :
    hunter.policyFor (scribe.request text) = scribe.policy := by
  simp only [policyFor, h]
  rfl

inductive Hunts : Dialogue Hunted → Prop where
  | byWords (text : String) : Hunts (hunter.hunt text)
  | byLines (text : String) : Hunts (hunter.huntLines text)
  | byClues (clues : Clues) : Hunts (hunter.huntClues clues)

theorem pursue_fetches (h : hunter.dictionary = none) (task : Task) :
    (hunter.pursue task).Fetches hunter.policyFor := by
  apply hunter.pursue_of_fetch Dialogue.compositional_fetches
  · intro seed length page
    exact .of_fetch (hunter.policyFor_get _)
  · intro scribe text hscribe _
    exact .of_fetch (hunter.policyFor_scribe hscribe text)
  · intro dictionary word hdictionary
    rw [h] at hdictionary
    cases hdictionary

theorem Hunts.fetches {hunter : Hunter} {hunting : Dialogue Hunted} (hunts : hunter.Hunts hunting)
    (h : hunter.dictionary = none) : hunting.Fetches hunter.policyFor := by
  cases hunts with
  | byWords text => exact hunter.pursue_fetches h (.byWords text)
  | byLines text => exact hunter.pursue_fetches h (.byLines text)
  | byClues clues => exact hunter.pursue_fetches h (.byClues clues)

/-! ## Setbacks leave no trace -/

/--
Whatever a hunter without a dictionary is told to do, it comes to the same report or failure when
setbacks come before the replies, if the fetch that waits for a reply bears those in front of it.
Without setbacks each fetch takes one reply, so the replies of the script are for the requests
asked, in their order.
-/
theorem hunts_alike_despite_setbacks {hunting : Dialogue Hunted} (hhunting : hunter.Hunts hunting)
    (hdictionary : hunter.dictionary = none) (otherwise : Request → Reply)
    (script : List Delayed)
    (hborne : ∀ entry ∈
      (asked (hunting.hold (.script otherwise) (script.map Delayed.reply)).events).zip script,
        entry.2.IsBorne (hunter.policyFor entry.1.1)) :
    (hunting.hold (.script otherwise) (script.flatMap Delayed.replies)).value =
      (hunting.hold (.script otherwise) (script.map Delayed.reply)).value :=
  (hhunting.fetches hdictionary).value_of_delayed otherwise script hborne

def persistent : Hunter where
  scribe := some ⟨⟨3, .zero, .ofSecs 1⟩, "/", "", "key"⟩
  harvester := ⟨⟨"/", ""⟩, ⟨2, .zero, .ofSecs 1⟩, .zero⟩
  dictionary := none
  lookupDelay := .zero

def persistentScript : List Delayed :=
  [⟨[{ outcome := .response ⟨429, ""⟩ }, { outcome := .response ⟨500, ""⟩, cancelled := true }],
      { outcome := .response ⟨200,
          "\x7b\"choices\":[\x7b\"message\":\x7b\"content\":" ++
            "\"\x7b\\\"rules\\\":\\\"C AT 1\\\"\x7d\"\x7d\x7d]\x7d"⟩ }⟩,
    ⟨[{ outcome := .timedOut }],
      { outcome := .response ⟨200, "CRANE <a rel=\"next\" href=\"page2\"></a>"⟩ }⟩,
    ⟨[{ outcome := .unreachable "reset" }], { outcome := .response ⟨200, "BRICK CHAIR"⟩ }⟩]

theorem hunts_alike_despite_setbacks_sample :
    let partner := Partner.script fun _ => { outcome := .timedOut }
    let hunted := ((persistent.hunt "c first").hold partner
      (persistentScript.flatMap Delayed.replies)).value
    hunted.1.map Report.found = .ok ["CHAIR", "CRANE"] ∧
      hunted.1.map Report.pages = .ok 2 := by
  intro partner hunted
  have hsame : hunted = ((persistent.hunt "c first").hold partner
      (persistentScript.map Delayed.reply)).value :=
    persistent.hunts_alike_despite_setbacks (.byWords "c first") rfl _ persistentScript
      (by decide +kernel)
  rw [hsame]
  exact ⟨by decide +kernel, by decide +kernel⟩

end Hunter

end WordHunt
