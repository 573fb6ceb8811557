import WordHunt.Proofs.Json.Numbers
import WordHunt.Proofs.Json.Strings

/-!
# Structures are read back

The text of a value is read as the structure of the value, with its members in the order in which
they are written.  Wherever the reader awaits a value, it reads the whole of it and hands its
structure to what is open there, so that nothing depends on what stands around the value.
-/

namespace WordHunt.Json

open Text ReaderState

/-! ## Values -/

/-- What holds of a value if it holds of its items and members holds of all values. -/
@[elab_as_elim]
theorem induct {p : Json → Prop} (null : p .null) (boolean : ∀ value, p (.boolean value))
    (number : ∀ value, p (.number value)) (string : ∀ text, p (.string text))
    (array : ∀ items, (∀ item ∈ items, p item) → p (.array items))
    (object : ∀ members, (∀ member ∈ members, p member.2) → p (.object members)) (value : Json) :
    p value :=
  @Json.rec p (fun items => ∀ item ∈ items, p item) (fun members => ∀ member ∈ members, p member.2)
    (fun member => p member.2) null boolean number string array object nofun
    (fun _ _ hfirst hmore => List.forall_mem_cons.mpr ⟨hfirst, hmore⟩) nofun
    (fun _ _ hfirst hmore => List.forall_mem_cons.mpr ⟨hfirst, hmore⟩) (fun _ _ h => h) value

def Number.tree (number : Number) : Tree :=
  match token (numberChars number) with
  | some (.number numeral, _) => .number numeral
  | _ => .null

mutual

def tree : Json → Tree
  | .null => .null
  | .boolean value => .boolean value
  | .number value => value.tree
  | .string text => .string (writtenUnits text)
  | .array items => .array (itemTrees items)
  | .object members => .object (memberTrees members)

def itemTrees : List Json → List Tree
  | [] => []
  | value :: values => value.tree :: itemTrees values

def memberTrees : List (String × Json) → List (List StringUnit × Tree)
  | [] => []
  | (name, value) :: members => (writtenUnits name, value.tree) :: memberTrees members

end

theorem itemTrees_eq_map (items : List Json) : itemTrees items = items.map tree := by
  induction items with
  | nil => rfl
  | cons value values ih => rw [itemTrees, ih, List.map_cons]

theorem memberTrees_eq_map (members : List (String × Json)) :
    memberTrees members = members.map fun member => (writtenUnits member.1, member.2.tree) := by
  induction members with
  | nil => rfl
  | cons member members ih => rw [memberTrees, ih, List.map_cons]

theorem Number.tree_integer (value : Int) :
    (Number.integer value).tree = .number (integerNumeral value) := by
  have htoken := (isProper_integerNumeral value).token_chars closes_nil
  rw [List.append_nil] at htoken
  rw [Number.tree, numberChars_integer, htoken]

/-! ## Texts of values -/

/-- The text stands in front of what follows, and does not depend on it. -/
def StandsInFront (text : List Char → List Char) : Prop :=
  ∃ front, ∀ rest, text rest = front ++ rest

theorem standsInFront_itemChars {items : List Json}
    (h : ∀ item ∈ items, StandsInFront (chars item)) : StandsInFront (itemChars items) := by
  induction items with
  | nil => exact ⟨[], fun _ => rfl⟩
  | cons value values ih =>
      obtain ⟨⟨front, hfront⟩, hvalues⟩ := List.forall_mem_cons.mp h
      cases values with
      | nil => exact ⟨front, hfront⟩
      | cons next values =>
          obtain ⟨more, hmore⟩ := ih hvalues
          exact ⟨front ++ ',' :: more, fun rest => by simp [itemChars, hfront, hmore]⟩

theorem standsInFront_memberChars {members : List (String × Json)}
    (h : ∀ member ∈ members, StandsInFront (chars member.2)) :
    StandsInFront (memberChars members) := by
  induction members with
  | nil => exact ⟨[], fun _ => rfl⟩
  | cons member members ih =>
      obtain ⟨⟨front, hfront⟩, hmembers⟩ := List.forall_mem_cons.mp h
      obtain ⟨name, value⟩ := member
      dsimp only at hfront
      cases members with
      | nil =>
          exact ⟨stringChars name ++ ':' :: front, fun rest => by simp [memberChars, hfront]⟩
      | cons next members =>
          obtain ⟨more, hmore⟩ := ih hmembers
          exact ⟨stringChars name ++ ':' :: (front ++ ',' :: more), fun rest => by
            simp [memberChars, hfront, hmore]⟩

theorem standsInFront_chars (value : Json) : StandsInFront (chars value) := by
  induction value using Json.induct with
  | null => exact ⟨['n', 'u', 'l', 'l'], fun _ => rfl⟩
  | boolean value =>
      cases value with
      | false => exact ⟨['f', 'a', 'l', 's', 'e'], fun _ => rfl⟩
      | true => exact ⟨['t', 'r', 'u', 'e'], fun _ => rfl⟩
  | number value => exact ⟨numberChars value, fun _ => rfl⟩
  | string text => exact ⟨stringChars text, fun _ => rfl⟩
  | array items ih =>
      obtain ⟨front, hfront⟩ := standsInFront_itemChars ih
      exact ⟨'[' :: front ++ [']'], fun rest => by simp [chars, hfront]⟩
  | object members ih =>
      obtain ⟨front, hfront⟩ := standsInFront_memberChars ih
      exact ⟨'{' :: front ++ ['}'], fun rest => by simp [chars, hfront]⟩

theorem exists_chars_object (members : List (String × Json)) :
    ∃ inside, chars (.object members) [] = '{' :: inside ++ ['}'] := by
  obtain ⟨inside, hinside⟩ := standsInFront_memberChars fun member (_ : member ∈ members) =>
    standsInFront_chars member.2
  exact ⟨inside, by rw [chars, hinside, List.cons_append]⟩

/-! ## Reading on -/

def readFrom (state : ReaderState) (s : List Char) : Option ReaderState :=
  (tokens? s).bind fun tokens => tokens.foldlM step? state

theorem Tree.ofText?_eq (s : List Char) :
    Tree.ofText? s = (readFrom (.atValue []) s).bind tree? := by
  rw [Tree.ofText?, readFrom]
  cases tokens? s <;> rfl

theorem readFrom_append_of_token {state : ReaderState} {piece s : List Char} {read : Token}
    (hpiece : piece ≠ []) (h : token (piece ++ s) = some (read, piece.length)) :
    readFrom state (piece ++ s) = (state.step? read).bind fun next => readFrom next s := by
  have htokens : tokens? (piece ++ s) = (tokens? s).map (read :: ·) := by
    rw [tokens?, scan_append_of_some hpiece h]
    rfl
  simp only [readFrom, htokens]
  cases tokens? s with
  | none => simp
  | some tokens => simp [List.foldlM_cons]

theorem readFrom_cons_of_token {state : ReaderState} {c : Char} {s : List Char} {read : Token}
    (h : token (c :: s) = some (read, 1)) :
    readFrom state (c :: s) = (state.step? read).bind fun next => readFrom next s :=
  readFrom_append_of_token (List.cons_ne_nil c []) h

def Awaits (state : ReaderState) (stack : List Open) : Prop :=
  ∀ read next, begin? stack read = some next → state.step? read = some next

theorem awaits_atValue (stack : List Open) : Awaits (.atValue stack) stack :=
  fun _ _ h => h

theorem awaits_atFirstItem (stack : List Open) : Awaits (.atFirstItem stack) (.array [] :: stack) := by
  intro read next h
  cases read <;> first | exact h | cases h

def AwaitsName (state : ReaderState) (stack : List Open)
    (members : List (List StringUnit × Tree)) : Prop :=
  ∀ name, state.step? (.string name) = some (.atColon stack members name)

theorem awaitsName_atFirstName (stack : List Open) : AwaitsName (.atFirstName stack) stack [] :=
  fun _ => rfl

theorem awaitsName_atName (stack : List Open) (members : List (List StringUnit × Tree)) :
    AwaitsName (.atName stack members) stack members :=
  fun _ => rfl

theorem readFrom_name {state : ReaderState} {stack : List Open}
    {members : List (List StringUnit × Tree)} (hstate : AwaitsName state stack members)
    (name : String) (s : List Char) :
    readFrom state (stringChars name ++ ':' :: s) =
      readFrom (.atValue (.object members (writtenUnits name) :: stack)) s := by
  rw [readFrom_append_of_token (by simp [stringChars]) (token_stringChars name (':' :: s)),
    hstate, Option.bind_some, readFrom_cons_of_token rfl]
  rfl

def IsReadBack (value : Json) : Prop :=
  ∀ state stack rest, Awaits state stack → Closes rest →
    readFrom state (chars value rest) = readFrom (give value.tree stack) rest

theorem readFrom_leaf {state : ReaderState} {stack : List Open} {piece rest : List Char}
    {read : Token} {leaf : Tree} (hstate : Awaits state stack) (hpiece : piece ≠ [])
    (htoken : token (piece ++ rest) = some (read, piece.length))
    (hbegin : begin? stack read = some (give leaf stack)) :
    readFrom state (piece ++ rest) = readFrom (give leaf stack) rest := by
  rw [readFrom_append_of_token hpiece htoken, hstate read _ hbegin]
  rfl

theorem isReadBack_number (value : Number) : IsReadBack (.number value) := by
  intro state stack rest hstate hrest
  obtain ⟨read, hkind, htoken⟩ := exists_token_numberChars value
  have halone := htoken [] closes_nil
  rw [List.append_nil] at halone
  have hbegin : begin? stack read = some (give value.tree stack) := by
    rw [Number.tree, halone]
    rcases hkind with rfl | ⟨numeral, rfl⟩ <;> rfl
  exact readFrom_leaf hstate (numberChars_ne_nil value) (htoken rest hrest) hbegin

/-! ## Arrays and objects -/

theorem readFrom_itemChars {items : List Json} (hitems : ∀ item ∈ items, IsReadBack item)
    (hne : items ≠ []) {state : ReaderState} {stack : List Open} {done : List Tree}
    (hstate : Awaits state (.array done :: stack)) (rest : List Char) :
    readFrom state (itemChars items (']' :: rest)) =
      readFrom (give (.array (done.reverse ++ items.map tree)) stack) rest := by
  induction items generalizing state done with
  | nil => exact absurd rfl hne
  | cons value values ih =>
      obtain ⟨hvalue, hvalues⟩ := List.forall_mem_cons.mp hitems
      cases values with
      | nil =>
          rw [itemChars, hvalue state _ _ hstate (closes_cons (by simp) rest), give,
            readFrom_cons_of_token rfl]
          simp [step?]
      | cons next values =>
          rw [itemChars, hvalue state _ _ hstate (closes_cons (by simp) _), give,
            readFrom_cons_of_token rfl]
          have hmore := ih hvalues (List.cons_ne_nil _ _)
            (awaits_atValue (.array (value.tree :: done) :: stack))
          simpa [step?] using hmore

theorem readFrom_memberChars {members : List (String × Json)}
    (hmembers : ∀ member ∈ members, IsReadBack member.2) (hne : members ≠ [])
    {state : ReaderState} {stack : List Open} {done : List (List StringUnit × Tree)}
    (hstate : AwaitsName state stack done) (rest : List Char) :
    readFrom state (memberChars members ('}' :: rest)) =
      readFrom (give (.object (done.reverse ++ memberTrees members)) stack) rest := by
  induction members generalizing state done with
  | nil => exact absurd rfl hne
  | cons member members ih =>
      obtain ⟨hvalue, hmore⟩ := List.forall_mem_cons.mp hmembers
      obtain ⟨name, value⟩ := member
      cases members with
      | nil =>
          rw [memberChars, readFrom_name hstate, hvalue _ _ _ (awaits_atValue _)
            (closes_cons (by simp) rest), give, readFrom_cons_of_token rfl]
          simp [step?, memberTrees]
      | cons next members =>
          rw [memberChars, readFrom_name hstate, hvalue _ _ _ (awaits_atValue _)
            (closes_cons (by simp) _), give, readFrom_cons_of_token rfl]
          have hrest := ih hmore (List.cons_ne_nil _ _)
            (awaitsName_atName stack ((writtenUnits name, value.tree) :: done))
          simpa [step?, memberTrees] using hrest

theorem isReadBack (value : Json) : IsReadBack value := by
  induction value using Json.induct with
  | null =>
      intro state stack rest hstate _
      have hword : token (['n', 'u', 'l', 'l'] ++ rest) = some (.null, 4) := rfl
      exact readFrom_leaf hstate (List.cons_ne_nil _ _) hword rfl
  | boolean value =>
      intro state stack rest hstate _
      cases value with
      | false =>
          have hword : token (['f', 'a', 'l', 's', 'e'] ++ rest) = some (.boolean false, 5) := rfl
          exact readFrom_leaf hstate (List.cons_ne_nil _ _) hword rfl
      | true =>
          have hword : token (['t', 'r', 'u', 'e'] ++ rest) = some (.boolean true, 4) := rfl
          exact readFrom_leaf hstate (List.cons_ne_nil _ _) hword rfl
  | number value => exact isReadBack_number value
  | string text =>
      intro state stack rest hstate _
      exact readFrom_leaf hstate (by simp [stringChars]) (token_stringChars text rest) rfl
  | array items ih =>
      intro state stack rest hstate _
      rw [chars, readFrom_cons_of_token rfl, hstate _ _ rfl, Option.bind_some]
      by_cases hne : items = []
      · subst hne
        rw [itemChars, readFrom_cons_of_token rfl]
        rfl
      · rw [readFrom_itemChars ih hne (awaits_atFirstItem stack), tree, itemTrees_eq_map]
        rfl
  | object members ih =>
      intro state stack rest hstate _
      rw [chars, readFrom_cons_of_token rfl, hstate _ _ rfl, Option.bind_some]
      by_cases hne : members = []
      · subst hne
        rw [memberChars, readFrom_cons_of_token rfl]
        rfl
      · rw [readFrom_memberChars ih hne (awaitsName_atFirstName stack), tree]
        rfl

theorem ofText?_chars (value : Json) : Tree.ofText? (chars value []) = some value.tree := by
  rw [Tree.ofText?_eq, value.isReadBack _ _ _ (awaits_atValue []) closes_nil]
  rfl

end WordHunt.Json
