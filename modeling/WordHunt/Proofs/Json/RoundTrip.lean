import WordHunt.Proofs.Json.Structure

/-!
# Values are read back

A value without real numbers whose integers fit a word and which is not nested too deeply is read
back from its text.  Its objects come back with their members in the order of the names, the last
one of each name.
-/

namespace WordHunt.Json

open Text

mutual

def inOrder : Json → Json
  | .array items => .array (itemsInOrder items)
  | .object members => ofMembers (membersInOrder members)
  | value => value

def itemsInOrder : List Json → List Json
  | [] => []
  | value :: values => value.inOrder :: itemsInOrder values

def membersInOrder : List (String × Json) → List (String × Json)
  | [] => []
  | (name, value) :: members => (name, value.inOrder) :: membersInOrder members

end

/-- A value that its text gives exactly, nested at most `room` deep. -/
inductive IsExact : (room : Nat) → Json → Prop where
  | null (room : Nat) : IsExact room .null
  | boolean (room : Nat) (value : Bool) : IsExact room (.boolean value)
  | integer (room : Nat) {value : Int} (fits : FitsWord value) :
      IsExact room (.number (.integer value))
  | string (room : Nat) (text : String) : IsExact room (.string text)
  | array {room : Nat} {items : List Json} (exact : ∀ item ∈ items, IsExact room item) :
      IsExact (room + 1) (.array items)
  | object {room : Nat} {members : List (String × Json)}
      (exact : ∀ member ∈ members, IsExact room member.2) : IsExact (room + 1) (.object members)

theorem IsExact.item {room : Nat} {value : Json} (h : IsExact room value) :
    IsExact (room + 1) (.array [value]) := by
  refine .array fun item hitem => ?_
  rwa [List.mem_singleton.mp hitem]

theorem IsExact.member {room : Nat} {value : Json} (h : IsExact room value) (name : String) :
    IsExact (room + 1) (.object [(name, value)]) := by
  refine .object fun member hmember => ?_
  rwa [List.mem_singleton.mp hmember]

theorem IsExact.texts {room : Nat} {members : List (String × Json)}
    (h : ∀ member ∈ members, ∃ text, member.2 = .string text) :
    IsExact (room + 1) (.object members) := by
  refine .object fun member hmember => ?_
  obtain ⟨text, htext⟩ := h member hmember
  rw [htext]
  exact .string room text

theorem itemValues?_itemTrees {room : Nat} {items : List Json}
    (h : ∀ item ∈ items, item.tree.value? room = some item.inOrder) :
    itemValues? room (itemTrees items) = some (itemsInOrder items) := by
  induction items with
  | nil => rfl
  | cons value values ih =>
      obtain ⟨hvalue, hvalues⟩ := List.forall_mem_cons.mp h
      simp [itemTrees, itemValues?, itemsInOrder, hvalue, ih hvalues]

theorem memberValues?_memberTrees {room : Nat} {members : List (String × Json)}
    (h : ∀ member ∈ members, member.2.tree.value? room = some member.2.inOrder) :
    memberValues? room (memberTrees members) = some (membersInOrder members) := by
  induction members with
  | nil => rfl
  | cons member members ih =>
      obtain ⟨hvalue, hmembers⟩ := List.forall_mem_cons.mp h
      obtain ⟨name, value⟩ := member
      simp [memberTrees, memberValues?, membersInOrder, hvalue, ih hmembers]

theorem IsExact.value?_tree {room : Nat} {value : Json} (h : IsExact room value) :
    value.tree.value? room = some value.inOrder := by
  induction h with
  | null room => rfl
  | boolean room value => rfl
  | integer room fits =>
      rw [tree, Number.tree_integer, Tree.value?, value?_integerNumeral fits]
      rfl
  | string room text =>
      rw [tree, Tree.value?, stringText?_writtenUnits]
      rfl
  | array exact ih =>
      rw [tree, Tree.value?, itemValues?_itemTrees ih]
      rfl
  | object exact ih =>
      rw [tree, Tree.value?, memberValues?_memberTrees ih]
      rfl

theorem ofText?_toText {value : Json} (h : IsExact maxDepth value) :
    ofText? value.toText = some value.inOrder := by
  rw [ofText?, toText, String.toList_ofList, ofChars?, ofText?_chars, Option.bind_some,
    h.value?_tree]

end WordHunt.Json
