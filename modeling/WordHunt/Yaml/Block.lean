import WordHunt.Yaml.Cursor

/-!
Block scalars: lines that are indented by the same number of columns.  A literal one keeps the
ends of its lines; a folded one joins two lines with a blank where neither begins with one.  How
it ends is for its header to say, and so is the indentation, or else the first line gives it.
-/

namespace WordHunt.Yaml

inductive Chomping where
  | strip
  | clip
  | keep
  deriving DecidableEq, Repr

/-- What the header of a block scalar says: how it ends, and by how much it is indented. -/
structure BlockHeader where
  chomping : Chomping := .clip
  /-- The columns beyond the indentation around it; zero if the first line decides. -/
  increment : Nat := 0
  deriving DecidableEq, Repr

def chomping? (c : Char) : Option Chomping :=
  if c = '+' then some .keep else if c = '-' then some .strip else none

def increment? (c : Char) : Option Nat :=
  if c.isDigit && c ≠ '0' then some (c.toNat - '0'.toNat) else none

def blockHeader? (s : List Char) : Option (BlockHeader × Nat) :=
  let isZero (s : List Char) : Bool := s.head? = some '0'
  match s.head?.bind chomping? with
  | some chomping =>
      if isZero (s.drop 1) then none
      else
        match s[1]?.bind increment? with
        | some increment => some (⟨chomping, increment⟩, 2)
        | none => some ({ chomping }, 1)
  | none =>
      if isZero s then none
      else
        match s.head?.bind increment? with
        | some increment =>
            match s[1]?.bind chomping? with
            | some chomping => some (⟨chomping, increment⟩, 2)
            | none => some ({ increment }, 1)
        | none => some ({}, 0)

/-- Empty lines that were passed over: how many, and the column that the widest one reached. -/
structure Emptiness where
  breaks : Nat := 0
  widest : Nat := 0
  deriving DecidableEq, Repr

/-- Passes over empty lines and the indentation of the next line, up to `limit` columns. -/
def emptyLines (limit : Option Nat) (seen : Emptiness) (place : Place) :
    List Char → Emptiness × Cursor
  | [] => ({ seen with widest := max seen.widest place.column }, ⟨place, []⟩)
  | c :: s =>
      let reached : Emptiness := { seen with widest := max seen.widest place.column }
      if c = ' ' && limit.all (place.column < ·) then
        emptyLines limit seen (place.after c s) s
      else if isPairedReturn c s then emptyLines limit reached (place.after c s) s
      else if isBreak c then
        emptyLines limit { reached with breaks := seen.breaks + 1 } (place.after c s) s
      else (reached, ⟨place, c :: s⟩)

structure BlockLines where
  /-- The text so far, in reverse, without the end of its last line. -/
  done : List Char := []
  ended : Bool := false
  blank : Bool := false
  breaks : Nat := 0
  deriving DecidableEq, Repr

namespace BlockLines

def beforeLine (lines : BlockLines) (literal blank : Bool) : List Char :=
  if !literal && lines.ended && !lines.blank && !blank then
    if lines.breaks = 0 then ' ' :: lines.done
    else List.replicate lines.breaks '\n' ++ lines.done
  else
    List.replicate lines.breaks '\n' ++ if lines.ended then '\n' :: lines.done else lines.done

def finish (lines : BlockLines) (chomping : Chomping) (filled : Bool) : List Char :=
  let done := if lines.ended then '\n' :: lines.done else lines.done
  let done := if filled then '\n' :: done else done
  match chomping with
  | .strip => lines.done.reverse
  | .clip => done.reverse
  | .keep => (List.replicate lines.breaks '\n' ++ done).reverse

end BlockLines

def blockLines (literal : Bool) (indent : Nat) :
    (fuel : Nat) → BlockLines → Cursor → BlockLines × Cursor
  | 0, lines, cursor => (lines, cursor)
  | fuel + 1, lines, cursor =>
      match cursor.rest with
      | [] => (lines, cursor)
      | c :: _ =>
          if cursor.place.column ≠ indent then (lines, cursor)
          else
            let blank := isSpace c
            let content := cursor.rest.takeWhile fun c => !isBreak c
            let done := content.reverse ++ lines.beforeLine literal blank
            let behind := cursor.dropWhile fun c => !isBreak c
            if behind.rest = [] then ({ done, blank }, behind)
            else
              let next := behind.dropBreak
              let (seen, cursor) := emptyLines (some indent) {} next.place next.rest
              blockLines literal indent fuel ⟨done, true, blank, seen.breaks⟩ cursor

def emptyBlock (chomping : Chomping) (breaks : Nat) : List Char :=
  match chomping with
  | .strip => []
  | .clip => ['\n']
  | .keep => List.replicate (max breaks 1) '\n'

def block? (literal : Bool) (depth : Nat) (cursor : Cursor) : Option (String × Cursor) := do
  let (header, size) ← blockHeader? (cursor.rest.drop 1)
  let behind ← (cursor.drop (size + 1)).restOfLine?
  if !atLineEnd behind.rest then none
  else
    let start := behind.dropBreak
    if start.rest.head? = some '\t' then none
    else
      let given := if header.increment = 0 then none else some (depth - 1 + header.increment)
      let (seen, inside) := emptyLines given {} start.place start.rest
      let indent := given.getD (max seen.widest depth)
      if inside.rest = [] then
        let chars := if behind.rest = [] then [] else emptyBlock header.chomping seen.breaks
        some (String.ofList chars, inside)
      else if inside.place.column < indent && depth < inside.place.column + 1 then none
      else
        let (lines, cursor) :=
          blockLines literal indent inside.rest.length { breaks := seen.breaks } inside
        let filled := cursor.rest = [] && max indent 1 ≤ cursor.place.column
        some (String.ofList (lines.finish header.chomping filled), cursor)

end WordHunt.Yaml
