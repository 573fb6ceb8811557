import WordHunt.Proofs.Settings.Tree
import WordHunt.Settings.Basic
import WordHunt.Text.Line

/-!
# The leaves of the settings

Every single setting is a leaf of the tree from which settings are made: fields lead to it, a value
that is found there is converted in the leaf's own way, and without one it has its default.  So
settings that can be made of a tree are settled leaf by leaf.
-/

namespace WordHunt

open Text

/-! ## Leaves -/

inductive RetryLeaf : Type → Type where
  | maxAttempts : RetryLeaf Nat
  | initialBackoff : RetryLeaf Duration
  | attemptBudget : RetryLeaf Duration

/-- The leaves by the types of their values; a change to a policy may be left out. -/
inductive Leaf : Type → Type 1 where
  | endpoint : Leaf String
  | model : Leaf String
  | apiKey : Leaf (Option String)
  | scribeRetry {α : Type} (leaf : RetryLeaf α) : Leaf (Option α)
  | urlTemplate : Leaf String
  | pageSuffix : Leaf String
  | pageDelay : Leaf Duration
  | catalogueRetry {α : Type} (leaf : RetryLeaf α) : Leaf (Option α)
  | lookupUrl : Leaf String
  | lookupBudget : Leaf Duration
  | lookupDelay : Leaf Duration

open Setting

def rootField (name : String) : Field :=
  ⟨["translator", "word_source", "dictionary"], name⟩

def scribeField (name : String) : Field :=
  ⟨["endpoint", "model", "api_key", "retry"], name⟩

def catalogueField (name : String) : Field :=
  ⟨["url_template", "page_suffix", "page_delay_ms", "retry"], name⟩

def dictionaryField (name : String) : Field :=
  ⟨["lookup_url", "timeout_secs", "delay_ms"], name⟩

def retryField (name : String) : Field :=
  ⟨["max_attempts", "initial_backoff_ms", "timeout_secs"], name⟩

namespace RetryLeaf

variable {α : Type}

def field : RetryLeaf α → Field
  | .maxAttempts => retryField "max_attempts"
  | .initialBackoff => retryField "initial_backoff_ms"
  | .attemptBudget => retryField "timeout_secs"

def convert : RetryLeaf α → Setting → Option α
  | .maxAttempts => toCount? attemptsBound
  | .initialBackoff => toMillis?
  | .attemptBudget => toSecs?

def get : RetryLeaf α → RetryChanges → Option α
  | .maxAttempts, changes => changes.maxAttempts
  | .initialBackoff, changes => changes.initialBackoff
  | .attemptBudget, changes => changes.attemptBudget

def ofPolicy : RetryLeaf α → RetryPolicy → α
  | .maxAttempts, policy => policy.maxAttempts
  | .initialBackoff, policy => policy.initialBackoff
  | .attemptBudget, policy => policy.attemptBudget

theorem ofPolicy_resolve (leaf : RetryLeaf α) (changes : RetryChanges) (policy : RetryPolicy) :
    leaf.ofPolicy (changes.resolve policy) = (leaf.get changes).getD (leaf.ofPolicy policy) := by
  cases leaf <;> rfl

end RetryLeaf

namespace Leaf

variable {α : Type}

def fields : Leaf α → List Field
  | .endpoint => [rootField "translator", scribeField "endpoint"]
  | .model => [rootField "translator", scribeField "model"]
  | .apiKey => [rootField "translator", scribeField "api_key"]
  | .scribeRetry leaf => [rootField "translator", scribeField "retry", leaf.field]
  | .urlTemplate => [rootField "word_source", catalogueField "url_template"]
  | .pageSuffix => [rootField "word_source", catalogueField "page_suffix"]
  | .pageDelay => [rootField "word_source", catalogueField "page_delay_ms"]
  | .catalogueRetry leaf => [rootField "word_source", catalogueField "retry", leaf.field]
  | .lookupUrl => [rootField "dictionary", dictionaryField "lookup_url"]
  | .lookupBudget => [rootField "dictionary", dictionaryField "timeout_secs"]
  | .lookupDelay => [rootField "dictionary", dictionaryField "delay_ms"]

def names (leaf : Leaf α) : List String :=
  leaf.fields.map Field.name

def place (leaf : Leaf α) : String :=
  joinWith "." leaf.names

def convert : Leaf α → Setting → Option α
  | .endpoint => toText?
  | .model => toText?
  | .apiKey => optional? toText?
  | .scribeRetry leaf => optional? leaf.convert
  | .urlTemplate => toText?
  | .pageSuffix => toText?
  | .pageDelay => toMillis?
  | .catalogueRetry leaf => optional? leaf.convert
  | .lookupUrl => toText?
  | .lookupBudget => toSecs?
  | .lookupDelay => toMillis?

def get : Leaf α → Settings → α
  | .endpoint, settings => settings.scribe.endpoint
  | .model, settings => settings.scribe.model
  | .apiKey, settings => settings.scribe.apiKey
  | .scribeRetry leaf, settings => leaf.get settings.scribe.retry
  | .urlTemplate, settings => settings.catalogue.urlTemplate
  | .pageSuffix, settings => settings.catalogue.pageSuffix
  | .pageDelay, settings => settings.catalogue.pageDelay
  | .catalogueRetry leaf, settings => leaf.get settings.catalogue.retry
  | .lookupUrl, settings => settings.dictionary.lookupUrl
  | .lookupBudget, settings => settings.dictionary.budget
  | .lookupDelay, settings => settings.dictionary.delay

def default (leaf : Leaf α) : α :=
  leaf.get {}

end Leaf

/-! ## Settings made of a tree -/

namespace Setting

variable {α β : Type}

def settle (convert : Setting → Option α) (default : α) (found : Option Setting) : Option α :=
  found.elim (some default) convert

theorem settle_field? {value : Setting} {field : Field} {values : List (String × Setting)}
    (h : value.entries? field.names = some values) (convert : Setting → Option α) (default : α) :
    settle convert default (value.field? field) = get? values field.name convert default := by
  rw [field?, h, Option.bind_some, get?, settle]
  cases values.lookup field.name <;> rfl

theorem settle_reach? {value : Setting} {field : Field} {values : List (String × Setting)}
    (h : value.entries? field.names = some values) (convert : Setting → Option α) (default : α) :
    settle convert default (value.reach? [field]) = get? values field.name convert default := by
  rw [← settle_field? h, reach?]
  cases value.field? field <;> rfl

theorem settle_within {toSection : Setting → Option β} {default part : β} {field : Field}
    {value : Setting} (h : settle toSection default (value.field? field) = some part) (get : β → α)
    {convert : Setting → Option α} {fields : List Field}
    (hreach : ∀ value, toSection value = some part →
      settle convert (get default) (value.reach? fields) = some (get part)) :
    settle convert (get default) (value.reach? (field :: fields)) = some (get part) := by
  rw [reach?]
  cases hfound : value.field? field with
  | none =>
      rw [hfound] at h
      obtain rfl := Option.some.inj h
      rfl
  | some found =>
      rw [hfound] at h
      exact hreach found h

section Sections

variable {value : Setting}

theorem settle_of_toRetryChanges? {changes : RetryChanges}
    (h : value.toRetryChanges? = some changes) (leaf : RetryLeaf α) :
    settle (optional? leaf.convert) (leaf.get {}) (value.reach? [leaf.field]) =
      some (leaf.get changes) := by
  simp only [toRetryChanges?, Option.bind_eq_bind, Option.bind_eq_some_iff, Option.some.injEq] at h
  obtain ⟨values, hvalues, maxAttempts, hattempts, initialBackoff, hbackoff, attemptBudget, hbudget,
    rfl⟩ := h
  cases leaf with
  | maxAttempts => exact (settle_reach? hvalues _ _).trans hattempts
  | initialBackoff => exact (settle_reach? hvalues _ _).trans hbackoff
  | attemptBudget => exact (settle_reach? hvalues _ _).trans hbudget

theorem settle_of_toScribeSettings? {scribe : ScribeSettings}
    (h : value.toScribeSettings? = some scribe) :
    let default : ScribeSettings := {}
    settle toText? default.endpoint (value.reach? [scribeField "endpoint"]) =
        some scribe.endpoint ∧
      settle toText? default.model (value.reach? [scribeField "model"]) = some scribe.model ∧
      settle (optional? toText?) default.apiKey (value.reach? [scribeField "api_key"]) =
        some scribe.apiKey ∧
      settle toRetryChanges? default.retry (value.field? (scribeField "retry")) =
        some scribe.retry := by
  simp only [toScribeSettings?, Option.bind_eq_bind, Option.bind_eq_some_iff,
    Option.some.injEq] at h
  obtain ⟨values, hvalues, endpoint, hendpoint, model, hmodel, apiKey, hapiKey, retry, hretry,
    rfl⟩ := h
  exact ⟨(settle_reach? hvalues _ _).trans hendpoint, (settle_reach? hvalues _ _).trans hmodel,
    (settle_reach? hvalues _ _).trans hapiKey, (settle_field? hvalues _ _).trans hretry⟩

theorem settle_of_toCatalogueSettings? {catalogue : CatalogueSettings}
    (h : value.toCatalogueSettings? = some catalogue) :
    let default : CatalogueSettings := {}
    settle toText? default.urlTemplate (value.reach? [catalogueField "url_template"]) =
        some catalogue.urlTemplate ∧
      settle toText? default.pageSuffix (value.reach? [catalogueField "page_suffix"]) =
        some catalogue.pageSuffix ∧
      settle toMillis? default.pageDelay (value.reach? [catalogueField "page_delay_ms"]) =
        some catalogue.pageDelay ∧
      settle toRetryChanges? default.retry (value.field? (catalogueField "retry")) =
        some catalogue.retry := by
  simp only [toCatalogueSettings?, Option.bind_eq_bind, Option.bind_eq_some_iff,
    Option.some.injEq] at h
  obtain ⟨values, hvalues, urlTemplate, htemplate, pageSuffix, hsuffix, pageDelay, hdelay, retry,
    hretry, rfl⟩ := h
  exact ⟨(settle_reach? hvalues _ _).trans htemplate, (settle_reach? hvalues _ _).trans hsuffix,
    (settle_reach? hvalues _ _).trans hdelay, (settle_field? hvalues _ _).trans hretry⟩

theorem settle_of_toDictionarySettings? {dictionary : DictionarySettings}
    (h : value.toDictionarySettings? = some dictionary) :
    let default : DictionarySettings := {}
    settle toText? default.lookupUrl (value.reach? [dictionaryField "lookup_url"]) =
        some dictionary.lookupUrl ∧
      settle toSecs? default.budget (value.reach? [dictionaryField "timeout_secs"]) =
        some dictionary.budget ∧
      settle toMillis? default.delay (value.reach? [dictionaryField "delay_ms"]) =
        some dictionary.delay := by
  simp only [toDictionarySettings?, Option.bind_eq_bind, Option.bind_eq_some_iff,
    Option.some.injEq] at h
  obtain ⟨values, hvalues, lookupUrl, hurl, budget, hbudget, delay, hdelay, rfl⟩ := h
  exact ⟨(settle_reach? hvalues _ _).trans hurl, (settle_reach? hvalues _ _).trans hbudget,
    (settle_reach? hvalues _ _).trans hdelay⟩

theorem settle_of_toSettings? {settings : Settings} (h : value.toSettings? = some settings) :
    settle toScribeSettings? {} (value.field? (rootField "translator")) = some settings.scribe ∧
      settle toCatalogueSettings? {} (value.field? (rootField "word_source")) =
        some settings.catalogue ∧
      settle toDictionarySettings? {} (value.field? (rootField "dictionary")) =
        some settings.dictionary := by
  simp only [toSettings?, Option.bind_eq_bind, Option.bind_eq_some_iff, Option.some.injEq] at h
  obtain ⟨values, hvalues, scribe, hscribe, catalogue, hcatalogue, dictionary, hdictionary,
    rfl⟩ := h
  exact ⟨(settle_field? hvalues _ _).trans hscribe, (settle_field? hvalues _ _).trans hcatalogue,
    (settle_field? hvalues _ _).trans hdictionary⟩

end Sections

end Setting

theorem Leaf.settle_reach? {tree : Setting} {settings : Settings}
    (h : tree.toSettings? = some settings) {α : Type} (leaf : Leaf α) :
    settle leaf.convert leaf.default (tree.reach? leaf.fields) = some (leaf.get settings) := by
  obtain ⟨hscribe, hcatalogue, hdictionary⟩ := settle_of_toSettings? h
  cases leaf with
  | endpoint =>
      exact settle_within hscribe (·.endpoint) fun _ h => (settle_of_toScribeSettings? h).1
  | model =>
      exact settle_within hscribe (·.model) fun _ h => (settle_of_toScribeSettings? h).2.1
  | apiKey =>
      exact settle_within hscribe (·.apiKey) fun _ h => (settle_of_toScribeSettings? h).2.2.1
  | scribeRetry leaf =>
      refine settle_within hscribe (fun scribe => leaf.get scribe.retry) fun _ h => ?_
      exact settle_within (settle_of_toScribeSettings? h).2.2.2 leaf.get fun _ hretry =>
        settle_of_toRetryChanges? hretry leaf
  | urlTemplate =>
      exact settle_within hcatalogue (·.urlTemplate) fun _ h =>
        (settle_of_toCatalogueSettings? h).1
  | pageSuffix =>
      exact settle_within hcatalogue (·.pageSuffix) fun _ h =>
        (settle_of_toCatalogueSettings? h).2.1
  | pageDelay =>
      exact settle_within hcatalogue (·.pageDelay) fun _ h =>
        (settle_of_toCatalogueSettings? h).2.2.1
  | catalogueRetry leaf =>
      refine settle_within hcatalogue (fun catalogue => leaf.get catalogue.retry) fun _ h => ?_
      exact settle_within (settle_of_toCatalogueSettings? h).2.2.2 leaf.get fun _ hretry =>
        settle_of_toRetryChanges? hretry leaf
  | lookupUrl =>
      exact settle_within hdictionary (·.lookupUrl) fun _ h =>
        (settle_of_toDictionarySettings? h).1
  | lookupBudget =>
      exact settle_within hdictionary (·.budget) fun _ h =>
        (settle_of_toDictionarySettings? h).2.1
  | lookupDelay =>
      exact settle_within hdictionary (·.delay) fun _ h =>
        (settle_of_toDictionarySettings? h).2.2

end WordHunt
