import WordHunt.Toml.Basic

/-!
Tables that are still being filled.  A table may be named again only in some ways: a header
opens each table once, but may open one that exists only because a longer header named it; a
dotted name adds to tables that no header opened, and no header may open them afterwards; and an
array of tables grows at its end.  A value that stands behind an equals sign is closed for good.
-/

namespace WordHunt.Toml

inductive Origin where
  | opened
  /-- On the way of a longer header. -/
  | implied
  /-- On the way of a dotted name, or by a longer header with a dotted name adding to it. -/
  | dotted
  deriving DecidableEq, Repr

inductive Node where
  | value (value : Toml)
  | table (origin : Origin) (members : List (String × Node))
  /-- An array of tables: those finished, in reverse, and the last one. -/
  | tables (finished : List (List (String × Node))) (last : List (String × Node))

abbrev Outline := List (String × Node)

namespace Outline

def alter? (name : String) (change : Option Node → Option Node) : Outline → Option Outline
  | [] => (change none).map fun node => [(name, node)]
  | (other, node) :: members =>
      if other = name then (change (some node)).map fun node => (name, node) :: members
      else (alter? name change members).map ((other, node) :: ·)

def within? (change : Outline → Option Outline) : List String → Outline → Option Outline
  | [], outline => change outline
  | name :: names, outline =>
      outline.alter? name fun
        | none => (within? change names []).map (.table .implied)
        | some (.table origin members) => (within? change names members).map (.table origin)
        | some (.tables finished last) => (within? change names last).map (.tables finished)
        | some (.value _) => none

def openTable? (name : String) (outline : Outline) : Option Outline :=
  outline.alter? name fun
    | none => some (.table .opened [])
    | some (.table .implied members) => some (.table .opened members)
    | _ => none

def addTable? (name : String) (outline : Outline) : Option Outline :=
  outline.alter? name fun
    | none => some (.tables [] [])
    | some (.tables finished last) => some (.tables (last :: finished) [])
    | _ => none

def assign? (value : Toml) : List String → Outline → Option Outline
  | [], _ => none
  | [name], outline =>
      outline.alter? name fun
        | none => some (.value value)
        | some _ => none
  | name :: next :: names, outline =>
      outline.alter? name fun
        | none => (assign? value (next :: names) []).map (.table .dotted)
        | some (.table origin members) =>
            if origin = .opened then none
            else (assign? value (next :: names) members).map (.table .dotted)
        | some (.tables finished last) =>
            if names = [] then none
            else (assign? value (next :: names) last).map (.tables finished)
        | _ => none

end Outline

mutual

def Node.toToml : Node → Toml
  | .value value => value
  | .table _ members => .table (toMembers members)
  | .tables finished last => .array (tablesOnto [.table (toMembers last)] finished)

def toMembers : List (String × Node) → List (String × Toml)
  | [] => []
  | (name, node) :: members => (name, node.toToml) :: toMembers members

def tablesOnto : List Toml → List (List (String × Node)) → List Toml
  | done, [] => done
  | done, members :: tables => tablesOnto (.table (toMembers members) :: done) tables

end

end WordHunt.Toml
