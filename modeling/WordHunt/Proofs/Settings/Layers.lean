import Mathlib.Control.Monad.Basic
import WordHunt.Proofs.Settings.Leaf
import WordHunt.Settings.Loading

/-!
# Settings by layers

The environment lies over the file.  What it names replaces what the file says there, leaf by leaf,
and a leaf that neither of them sets has its default.  So a variable concerns no leaf but its own,
unless the file lists a section by the order of its names: such a list gives way as a whole.
-/

namespace WordHunt

open Text Setting

variable {α : Type}

/-! ## Places of leaves -/

def Setting.namesOf (place : String) : List String :=
  (place.toList.splitOn '.').map String.ofList

namespace Settings

theorem path_eq_pathOf : ∀ place ∈ places, path place = pathOf (namesOf place) := by
  decide +kernel

theorem apart_of_ne :
    ∀ place ∈ places, ∀ other ∈ places, other ≠ place → Apart (namesOf place) (namesOf other) := by
  decide +kernel

end Settings

namespace Leaf

theorem place_mem_places (leaf : Leaf α) : leaf.place ∈ Settings.places := by
  cases leaf with
  | scribeRetry leaf => cases leaf <;> decide +kernel
  | catalogueRetry leaf => cases leaf <;> decide +kernel
  | _ => decide +kernel

theorem namesOf_place (leaf : Leaf α) : namesOf leaf.place = leaf.names := by
  cases leaf with
  | scribeRetry leaf => cases leaf <;> decide +kernel
  | catalogueRetry leaf => cases leaf <;> decide +kernel
  | _ => decide +kernel

end Leaf

/-! ## The environment -/

def NamesLeaves (environment : List (String × String)) : Prop :=
  ∀ entry ∈ ofEnvironment environment, entry.1 ∈ Settings.places

instance (environment : List (String × String)) : Decidable (NamesLeaves environment) :=
  inferInstanceAs (Decidable (∀ entry ∈ ofEnvironment environment, entry.1 ∈ Settings.places))

theorem lastIn?_ofEnvironment_append (environment : List (String × String)) {name place : String}
    (text : String) (h : place? name = some place) {other : String} (hother : other ≠ place) :
    lastIn? (ofEnvironment (environment ++ [(name, text)])) other =
      lastIn? (ofEnvironment environment) other := by
  have hlast : ofEnvironment (environment ++ [(name, text)]) =
      ofEnvironment environment ++ [(place, ofVariable text)] := by
    simp [ofEnvironment, h]
  rw [hlast, lastIn?, List.reverse_append, List.reverse_singleton, List.singleton_append,
    List.lookup_cons, beq_false_of_ne hother]
  rfl

theorem onto_ofVariable (text : String) (earlier : Setting) :
    (ofVariable text).onto earlier = ofVariable text := by
  simp only [ofVariable]
  split
  next => rfl
  next =>
    split
    next => rfl
    next => split <;> rfl

theorem NamesLeaves.overlays {environment : List (String × String)} (h : NamesLeaves environment)
    (leaf : Leaf α) : Overlays namesOf leaf.place (ofEnvironment environment) where
  path_eq entry hentry := Settings.path_eq_pathOf _ (h entry hentry)
  onto_eq entry hentry earlier := by
    obtain ⟨⟨name, text⟩, -, hnamed⟩ := List.mem_filterMap.mp hentry
    obtain ⟨place, -, rfl⟩ := Option.map_eq_some_iff.mp hnamed
    exact onto_ofVariable text earlier
  apart entry hentry hne :=
    Settings.apart_of_ne _ leaf.place_mem_places _ (h entry hentry) hne

/--
The value that is found for a leaf: what the environment says last, or else what the tree of the
file has there.  A list in the file gives way to whatever the environment names within it.
-/
def Leaf.found? (leaf : Leaf α) (file : Setting) (environment : List (String × String)) :
    Option Setting :=
  (lastIn? (ofEnvironment environment) leaf.place).or
    (if (ofEnvironment environment).any fun entry => shareList leaf.names (namesOf entry.1) file
      then none else file.reach? leaf.fields)

theorem Leaf.reach?_assignAll (leaf : Leaf α) {environment : List (String × String)}
    (h : NamesLeaves environment) (file : Setting) :
    (file.assignAll (ofEnvironment environment)).reach? leaf.fields =
      leaf.found? file environment := by
  rw [Setting.reach?_assignAll leaf.namesOf_place.symm (h.overlays leaf), leaf.namesOf_place]
  rfl

theorem Leaf.found?_congr (leaf : Leaf α) {file : Setting}
    {environment other : List (String × String)} {place : String} (hplace : leaf.place ≠ place)
    (hshare : shareList leaf.names (namesOf place) file = false)
    (h : ∀ named ≠ place, lastIn? (ofEnvironment other) named =
      lastIn? (ofEnvironment environment) named) :
    leaf.found? file other = leaf.found? file environment := by
  have hany := any_congr_of_lastIn? (p := fun named => shareList leaf.names (namesOf named) file)
    hshare h
  rw [found?, found?, h _ hplace, hany]

/-! ## Loading -/

/-- The tree that a file makes; it is empty if there is no file and there need not be one. -/
def SettingsSource.tree? : SettingsSource → Option Setting
  | .named none => none
  | .usual none => some (.table [])
  | .named (some file) | .usual (some file) => file.layer?.map (Setting.assignAll (.table []))

namespace Settings

theorem load?_eq_bind (file : Option SettingsFile) (environment : List (String × String)) :
    load? file environment = (SettingsSource.usual file).tree?.bind fun tree =>
      (tree.assignAll (ofEnvironment environment)).toSettings? := by
  cases file with
  | none => rfl
  | some file =>
      simp only [load?, SettingsSource.tree?]
      cases file.layer? <;> rfl

theorem load_usual_eq_ok_iff {file : Option SettingsFile} {environment : List (String × String)}
    {settings : Settings} :
    load (.usual file) environment = .ok settings ↔ load? file environment = some settings := by
  simp only [load]
  cases load? file environment <;> simp

theorem load_eq_ok_iff {source : SettingsSource} {environment : List (String × String)}
    {settings : Settings} :
    load source environment = .ok settings ↔
      ∃ file, source.tree? = some file ∧
        (file.assignAll (ofEnvironment environment)).toSettings? = some settings := by
  rw [← Option.bind_eq_some_iff]
  cases source with
  | usual file => rw [← load?_eq_bind, load_usual_eq_ok_iff]
  | named file =>
      cases file with
      | none => simp [load, SettingsSource.tree?]
      | some file =>
          have hnamed : load (.named (some file)) = load (.usual (some file)) := rfl
          have htree : (SettingsSource.named (some file)).tree? =
              (SettingsSource.usual (some file)).tree? := rfl
          rw [hnamed, htree, ← load?_eq_bind, load_usual_eq_ok_iff]

/--
Every leaf is what the environment says, converted, or else what the file has there, or else its
default.  A change to what the environment says about one place concerns no other leaf, unless the
file lists a section that both are in.  Policies change by what their own section says.
-/
theorem load_settles_leaves {source : SettingsSource} {environment : List (String × String)}
    {settings : Settings} (hknown : NamesLeaves environment)
    (hload : load source environment = .ok settings) :
    ∃ file, source.tree? = some file ∧
      (∀ {α : Type} (leaf : Leaf α),
        settle leaf.convert leaf.default (leaf.found? file environment) =
          some (leaf.get settings)) ∧
      (∀ {other : List (String × String)} {later : Settings} {place : String},
        NamesLeaves other → load source other = .ok later →
          (∀ named ≠ place, lastIn? (ofEnvironment other) named =
            lastIn? (ofEnvironment environment) named) →
          ∀ {α : Type} (leaf : Leaf α), leaf.place ≠ place →
            shareList leaf.names (namesOf place) file = false →
            leaf.get later = leaf.get settings) ∧
      ∀ {α : Type} (leaf : RetryLeaf α),
        leaf.ofPolicy settings.scribe.policy =
            ((Leaf.scribeRetry leaf).get settings).getD (leaf.ofPolicy .scribe) ∧
          leaf.ofPolicy settings.catalogue.policy =
            ((Leaf.catalogueRetry leaf).get settings).getD (leaf.ofPolicy .catalogue) := by
  obtain ⟨file, hfile, hsettings⟩ := load_eq_ok_iff.mp hload
  refine ⟨file, hfile, ?_, ?_, ?_⟩
  · intro α leaf
    rw [← leaf.reach?_assignAll hknown]
    exact leaf.settle_reach? hsettings
  · intro other later place hotherKnown hlater hagree α leaf hplace hshare
    obtain ⟨same, hsame, hlaterSettings⟩ := load_eq_ok_iff.mp hlater
    rw [hfile] at hsame
    obtain rfl := Option.some.inj hsame
    have hleaf := leaf.settle_reach? hsettings
    have hlaterLeaf := leaf.settle_reach? hlaterSettings
    rw [leaf.reach?_assignAll hknown] at hleaf
    rw [leaf.reach?_assignAll hotherKnown, leaf.found?_congr hplace hshare hagree, hleaf]
      at hlaterLeaf
    exact (Option.some.inj hlaterLeaf).symm
  · intro α leaf
    exact ⟨leaf.ofPolicy_resolve _ _, leaf.ofPolicy_resolve _ _⟩

/-- A section may be set in part by the file and in part by the environment. -/
theorem load_settles_leaves_sample :
    let source : SettingsSource := .usual (some ⟨.toml, "[translator.retry]\nmax_attempts = 7\n"⟩)
    let environment := [("Wordle_Sieve__Translator__Retry__Timeout_Secs", "12")]
    let model := ("WORDLE_SIEVE__TRANSLATOR__MODEL", "m")
    let settings : Settings :=
      { scribe := { retry := { maxAttempts := some 7, attemptBudget := some (.ofSecs 12) } } }
    let later : Settings := { settings with scribe.model := "m" }
    NamesLeaves environment ∧ load source environment = .ok settings ∧
      (Leaf.scribeRetry .maxAttempts).get settings = some 7 ∧
      RetryLeaf.initialBackoff.ofPolicy settings.scribe.policy =
        RetryPolicy.scribe.initialBackoff ∧
      load source (environment ++ [model]) = .ok later ∧
      (Leaf.scribeRetry .maxAttempts).get later = (Leaf.scribeRetry .maxAttempts).get settings := by
  intro source environment model settings later
  have hknown : NamesLeaves environment := by decide +kernel
  have hload : load source environment = .ok settings := by decide +kernel
  have hlater : load source (environment ++ [model]) = .ok later := by decide +kernel
  obtain ⟨file, hfile, hleaves, hframe, hpolicies⟩ := load_settles_leaves hknown hload
  have hfound : (source.tree?.bind fun file =>
      settle (Leaf.scribeRetry .maxAttempts).convert (Leaf.scribeRetry .maxAttempts).default
        ((Leaf.scribeRetry .maxAttempts).found? file environment)) = some (some 7) := by
    decide +kernel
  have hshare : (source.tree?.map fun file => shareList (Leaf.scribeRetry .maxAttempts).names
      (namesOf "translator.model") file) = some false := by
    decide +kernel
  rw [hfile] at hfound hshare
  refine ⟨hknown, hload, ?_, (hpolicies .initialBackoff).1, hlater, ?_⟩
  · exact Option.some.inj ((hleaves _).symm.trans hfound)
  · refine hframe (by decide +kernel) hlater ?_ _ (by decide +kernel) (Option.some.inj hshare)
    intro named hnamed
    exact lastIn?_ofEnvironment_append environment "m" (by decide +kernel) hnamed

/-- A list gives way as a whole to what the environment sets within it. -/
theorem listed_section_gives_way :
    let source : SettingsSource :=
      .named (some ⟨.toml, "translator = [\"https://e.test/\", \"m\"]\n"⟩)
    let environment := [("WORDLE_SIEVE__TRANSLATOR__API_KEY", "k")]
    let settings : Settings := { scribe := { endpoint := "https://e.test/", model := "m" } }
    let later : Settings := { scribe := { apiKey := some "k" } }
    NamesLeaves environment ∧ load source [] = .ok settings ∧
      load source environment = .ok later ∧
      lastIn? (ofEnvironment environment) Leaf.endpoint.place = none ∧
      (source.tree?.bind fun file =>
        (file.reach? Leaf.endpoint.fields).bind Leaf.endpoint.convert) =
          some (Leaf.endpoint.get settings) ∧
      Leaf.endpoint.get later ≠ Leaf.endpoint.get settings := by
  intro source environment settings later
  have hnone : (lastIn? (ofEnvironment environment) Leaf.endpoint.place).isNone = true := by
    decide +kernel
  refine ⟨?_, ?_, ?_, Option.isNone_iff_eq_none.mp hnone, ?_, ?_⟩ <;> decide +kernel

end Settings

end WordHunt
