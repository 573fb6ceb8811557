import WordHunt.Settings.Conversion
import WordHunt.Settings.Path

/-!
# One place in a tree of settings

A place is reached through the fields of sections, one within the other.  To set a place leaves
what is reached at any other one, with a single exception: a section that is written as a list is
made into a table when something is set in it, and what it listed is gone.
-/

namespace WordHunt.Setting

/-! ## Reaching a place -/

structure Field where
  names : List String
  name : String
  deriving DecidableEq, Repr

def field? (field : Field) (value : Setting) : Option Setting :=
  (value.entries? field.names).bind fun values => values.lookup field.name

def reach? : List Field → Setting → Option Setting
  | [], value => some value
  | field :: fields, value => (value.field? field).bind (reach? fields)

def pathOf (names : List String) : List Step :=
  names.map .member

/-- Neither of two places lies within the other. -/
def Apart (place other : List String) : Prop :=
  ¬ place <+: other ∧ ¬ other <+: place

instance (place other : List String) : Decidable (Apart place other) :=
  inferInstanceAs (Decidable (_ ∧ _))

def isList : Setting → Bool
  | .list _ => true
  | _ => false

/-- Whether both places lie within one and the same list. -/
def shareList : List String → List String → Setting → Bool
  | name :: place, other :: place', value =>
      value.isList || name == other && (value.members.lookup name).any (shareList place place')
  | _, _, _ => false

theorem members_of_isList {value : Setting} (h : value.isList = true) : value.members = [] := by
  cases value <;> first | rfl | cases h

theorem field?_of_not_isList {value : Setting} (h : value.isList = false) (field : Field) :
    value.field? field = value.members.lookup field.name := by
  cases value <;> first | rfl | cases h

theorem not_apart_nil (other : List String) : ¬ Apart [] other :=
  fun h => h.1 List.nil_prefix

theorem not_apart_nil_right (place : List String) : ¬ Apart place [] :=
  fun h => h.2 List.nil_prefix

theorem apart_cons_cons {name other : String} {place place' : List String} :
    Apart (name :: place) (other :: place') ↔ (name = other → Apart place place') := by
  simp only [Apart, List.cons_prefix_cons, not_and]
  constructor
  · rintro ⟨hfirst, hsecond⟩ rfl
    exact ⟨hfirst rfl, hsecond rfl⟩
  · intro h
    exact ⟨fun hsame => (h hsame).1, fun hsame => (h hsame.symm).2⟩

@[simp] theorem shareList_unset (place other : List String) :
    shareList place other .unset = false := by
  cases place <;> cases other <;> simp [shareList, isList, members]

theorem reach?_unset {fields : List Field} {other : List String}
    (h : Apart (fields.map Field.name) other) : reach? fields .unset = none := by
  cases fields with
  | nil => exact absurd h (not_apart_nil other)
  | cons field fields => rfl

/-! ## Setting a place -/

section Altering

variable (change : Setting → Setting)

theorem alterAt_pathOf_cons (name : String) (place : List String) (value : Setting) :
    alterAt change (pathOf (name :: place)) value =
      .table (alterIn name (alterAt change (pathOf place)) value.members) := rfl

theorem field?_table (field : Field) (members : List (String × Setting)) :
    (Setting.table members).field? field = members.lookup field.name := rfl

theorem reach?_alterAt_self (fields : List Field) (value : Setting) :
    ∃ old, reach? fields (alterAt change (pathOf (fields.map Field.name)) value) =
      some (change old) := by
  induction fields generalizing value with
  | nil => exact ⟨value, rfl⟩
  | cons field fields ih =>
      rw [List.map_cons, alterAt_pathOf_cons, reach?, field?_table, lookup_alterIn, if_pos rfl]
      exact ih _

theorem reach?_alterAt (fields : List Field) {other : List String}
    (h : Apart (fields.map Field.name) other) (value : Setting) :
    reach? fields (alterAt change (pathOf other) value) =
      if shareList (fields.map Field.name) other value then none else reach? fields value := by
  induction fields generalizing other value with
  | nil => exact absurd h (not_apart_nil other)
  | cons field fields ih =>
      cases other with
      | nil => exact absurd h (not_apart_nil_right _)
      | cons name other =>
          rw [List.map_cons, apart_cons_cons] at h
          rw [List.map_cons, alterAt_pathOf_cons, reach?, reach?, field?_table, lookup_alterIn,
            shareList]
          cases hlist : value.isList with
          | true =>
              -- The list gives way to a table that has nothing but what is set.
              rw [members_of_isList hlist, List.lookup_nil, Option.getD_none, Bool.true_or,
                if_pos rfl]
              split
              next hname =>
                have hapart := h hname
                rw [Option.bind_some, ih hapart, shareList_unset, if_neg Bool.false_ne_true,
                  reach?_unset hapart]
              next => rfl
          | false =>
              rw [field?_of_not_isList hlist, Bool.false_or]
              by_cases hname : field.name = name
              · have hapart := h hname
                rw [if_pos hname, Option.bind_some, ih hapart, ← hname, beq_self_eq_true,
                  Bool.true_and]
                cases value.members.lookup field.name with
                | none => simp [reach?_unset hapart]
                | some child => rfl
              · rw [if_neg hname, beq_false_of_ne hname, Bool.false_and, if_neg Bool.false_ne_true]

theorem shareList_alterAt_self (place other : List String) (value : Setting) :
    shareList place other (alterAt change (pathOf place) value) = false := by
  induction place generalizing other value with
  | nil => rfl
  | cons name place ih =>
      cases other with
      | nil => rfl
      | cons next other =>
          rw [alterAt_pathOf_cons, shareList, members, lookup_alterIn, if_pos rfl, Option.any_some,
            ih, Bool.and_false]
          rfl

theorem shareList_alterAt {place other : List String} (h : Apart place other) {value : Setting}
    (hshare : shareList place other value = false) (next : List String) :
    shareList place next (alterAt change (pathOf other) value) = shareList place next value := by
  induction place generalizing other value next with
  | nil => exact absurd h (not_apart_nil other)
  | cons name place ih =>
      cases other with
      | nil => exact absurd h (not_apart_nil_right _)
      | cons name' other =>
          cases next with
          | nil => rfl
          | cons name'' next =>
              rw [apart_cons_cons] at h
              rw [shareList, Bool.or_eq_false_iff] at hshare
              rw [alterAt_pathOf_cons, shareList, shareList, hshare.1, members, lookup_alterIn]
              by_cases hname : name = name'
              · subst hname
                have hapart := h rfl
                rw [beq_self_eq_true, Bool.true_and] at hshare
                rw [if_pos rfl, Option.any_some]
                cases hchild : value.members.lookup name with
                | none => simp [ih hapart (shareList_unset place other) next, isList]
                | some child =>
                    rw [hchild, Option.any_some] at hshare
                    rw [Option.getD_some, ih hapart hshare.2, Option.any_some]
                    rfl
              · rw [if_neg hname]
                rfl

end Altering

/-! ## Setting what a layer says -/

/-- The value that a layer gives a place; of several the last one counts. -/
def lastIn? (layer : List (String × Setting)) (place : String) : Option Setting :=
  layer.reverse.lookup place

theorem lastIn?_cons (entry : String × Setting) (layer : List (String × Setting))
    (place : String) :
    lastIn? (entry :: layer) place =
      (lastIn? layer place).or (if entry.1 = place then some entry.2 else none) := by
  rw [lastIn?, lastIn?, List.reverse_cons, List.lookup_append, List.lookup_cons, List.lookup_nil]
  by_cases h : entry.1 = place
  · simp [h]
  · simp [h, beq_false_of_ne (Ne.symm h)]

theorem isSome_lastIn?_iff {layer : List (String × Setting)} {place : String} :
    (lastIn? layer place).isSome = true ↔ ∃ entry ∈ layer, entry.1 = place := by
  induction layer with
  | nil => simp [lastIn?]
  | cons entry layer ih =>
      rw [lastIn?_cons, Option.isSome_or, Bool.or_eq_true, ih, or_comm]
      by_cases h : entry.1 = place <;> simp [h]

theorem any_congr_of_lastIn? {layer layer' : List (String × Setting)} {place : String}
    {p : String → Bool} (hplace : p place = false)
    (h : ∀ other ≠ place, lastIn? layer' other = lastIn? layer other) :
    (layer'.any fun entry => p entry.1) = layer.any fun entry => p entry.1 := by
  have hany : ∀ layer : List (String × Setting), (layer.any fun entry => p entry.1) = true ↔
      ∃ other, (lastIn? layer other).isSome = true ∧ p other = true := by
    intro layer
    simp only [List.any_eq_true, isSome_lastIn?_iff]
    constructor
    · rintro ⟨entry, hentry, hp⟩
      exact ⟨entry.1, ⟨entry, hentry, rfl⟩, hp⟩
    · rintro ⟨_, ⟨entry, hentry, rfl⟩, hp⟩
      exact ⟨entry, hentry, hp⟩
  rw [Bool.eq_iff_iff, hany, hany]
  refine exists_congr fun other => and_congr_left fun hother => ?_
  rw [h other]
  rintro rfl
  rw [hplace] at hother
  cases hother

/--
A layer as an environment gives it: each entry replaces what there is at a place that is named by
`names` and is apart from `place`, if it is not that place.
-/
structure Overlays (names : String → List String) (place : String)
    (layer : List (String × Setting)) : Prop where
  path_eq : ∀ entry ∈ layer, path entry.1 = pathOf (names entry.1)
  onto_eq : ∀ entry ∈ layer, ∀ earlier, entry.2.onto earlier = entry.2
  apart : ∀ entry ∈ layer, entry.1 ≠ place → Apart (names place) (names entry.1)

theorem reach?_assignAll {names : String → List String} {place : String} {fields : List Field}
    (hfields : fields.map Field.name = names place) {layer : List (String × Setting)}
    (h : Overlays names place layer) (tree : Setting) :
    reach? fields (tree.assignAll layer) =
      (lastIn? layer place).or
        (if layer.any fun entry => shareList (names place) (names entry.1) tree then none
          else reach? fields tree) := by
  induction layer generalizing tree with
  | nil => simp [assignAll, lastIn?]
  | cons entry layer ih =>
      obtain ⟨hpath, hlayerPath⟩ := List.forall_mem_cons.mp h.path_eq
      obtain ⟨honto, hlayerOnto⟩ := List.forall_mem_cons.mp h.onto_eq
      obtain ⟨hapart, hlayerApart⟩ := List.forall_mem_cons.mp h.apart
      have hset : tree.assign entry.1 entry.2 =
          alterAt (fun _ => entry.2) (pathOf (names entry.1)) tree := by
        rw [assign, hpath]
        exact congrArg (alterAt · _ _) (funext honto)
      have hstep : tree.assignAll (entry :: layer) =
          (tree.assign entry.1 entry.2).assignAll layer := rfl
      rw [hstep, ih ⟨hlayerPath, hlayerOnto, hlayerApart⟩, lastIn?_cons, Option.or_assoc, hset,
        List.any_cons]
      congr 1
      by_cases hplace : entry.1 = place
      · -- The place is set, and there is no list left on the way to it.
        obtain ⟨old, hold⟩ := reach?_alterAt_self (fun _ => entry.2) fields tree
        rw [hfields] at hold
        simp [hplace, hold, shareList_alterAt_self]
      · have hother := hapart hplace
        rw [← hfields] at hother
        have hreach := reach?_alterAt (fun _ => entry.2) fields hother tree
        rw [if_neg hplace, Option.none_or, hreach, hfields]
        rw [hfields] at hother
        cases hshare : shareList (names place) (names entry.1) tree with
        | true => simp
        | false =>
            have hkept := shareList_alterAt (fun _ => entry.2) hother hshare
            simp only [hkept, Bool.false_or, if_neg Bool.false_ne_true]

end WordHunt.Setting
