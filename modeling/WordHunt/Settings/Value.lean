/-!
A tree of settings put together from several layers.  A later layer overrides an earlier one
value by value: tables are merged, and anything else is replaced.  A place that a layer names is
made if need be, and whatever is in its way gives way.
-/

namespace WordHunt

inductive Setting where
  /-- A place that was made on the way to another one. -/
  | unset
  | boolean (value : Bool)
  | integer (value : Int)
  | real (value : Float)
  | text (value : String)
  | list (items : List Setting)
  | table (members : List (String × Setting))

namespace Setting

def members : Setting → List (String × Setting)
  | .table members => members
  | _ => []

def items : Setting → List Setting
  | .list items => items
  | _ => []

def alterIn (name : String) (change : Setting → Setting) :
    List (String × Setting) → List (String × Setting)
  | [] => [(name, change .unset)]
  | (other, value) :: members =>
      if other = name then (name, change value) :: members
      else (other, value) :: alterIn name change members

theorem lookup_alterIn (name other : String) (change : Setting → Setting)
    (members : List (String × Setting)) :
    (alterIn name change members).lookup other =
      if other = name then some (change ((members.lookup name).getD .unset))
      else members.lookup other := by
  induction members with
  | nil =>
      by_cases h : other = name
      · simp [alterIn, h]
      · simp [alterIn, List.lookup_cons, h, beq_false_of_ne h]
  | cons member members ih =>
      obtain ⟨key, value⟩ := member
      by_cases hk : key = name
      · subst hk
        by_cases h : other = key
        · simp [alterIn, h]
        · simp [alterIn, List.lookup_cons, h, beq_false_of_ne h]
      · by_cases ho : other = key
        · subst ho
          simp [alterIn, hk]
        · have hn : (name == key) = false := beq_false_of_ne (Ne.symm hk)
          simp [alterIn, List.lookup_cons, hk, beq_false_of_ne ho, hn, ih]

/-- Sets a member; an earlier one of the name gives way. -/
def setIn (name : String) (value : Setting) (members : List (String × Setting)) :
    List (String × Setting) :=
  alterIn name (fun _ => value) members

def alterMember (name : String) (change : Setting → Setting) (value : Setting) : Setting :=
  .table (alterIn name change value.members)

/--
Changes an item of what is a list afterwards.  A negative index counts from the end.  The list
is filled up, at its end or in front, until it has the item.
-/
def alterItem (index : Int) (change : Setting → Setting) (value : Setting) : Setting :=
  let items := value.items
  if 0 ≤ index then
    let index := index.toNat
    let items := items ++ List.replicate (index + 1 - items.length) .unset
    .list (items.modify index change)
  else
    let items := List.replicate (index.natAbs - items.length) .unset ++ items
    .list (items.modify (items.length - index.natAbs) change)

inductive Step where
  | member (name : String)
  | item (index : Int)
  deriving DecidableEq, Repr

def alterAt (change : Setting → Setting) : List Step → Setting → Setting
  | [], value => change value
  | .member name :: path, value => value.alterMember name (alterAt change path)
  | .item index :: path, value => value.alterItem index (alterAt change path)

/-- Where a layer has a table and nothing is set yet, there is an empty table. -/
def orTable : Setting → Setting
  | .unset => .table []
  | value => value

mutual

/-- Puts a value of a later layer over an earlier one. -/
def onto : Setting → Setting → Setting
  | .table members, earlier => membersOnto members earlier.orTable
  | later, _ => later

def membersOnto : List (String × Setting) → Setting → Setting
  | [], earlier => earlier
  | (name, value) :: members, earlier =>
      membersOnto members (earlier.alterMember name value.onto)

end

end Setting

end WordHunt
