import WordHunt.Decimal.Reading
import WordHunt.Settings.Value

/-!
Places in a tree of settings, as they are written: names separated by dots, each possibly
followed by indices in brackets, as in `lists.first[0]`.  Blanks may surround an index.
-/

namespace WordHunt.Setting

open Text

def isNameChar (c : Char) : Bool :=
  c.isAlphanum || c = '_' || c = '-'

def isBlankInIndex (c : Char) : Bool :=
  c = ' ' || c = '\t'

def indexNumber? (s : List Char) : Option Int :=
  let s := ((s.dropWhile isBlankInIndex).reverse.dropWhile isBlankInIndex).reverse
  if s.head? = some '+' then none else Decimal.readInteger? s

def index? (s : List Char) : Option Step := do
  let index ← indexNumber? s.dropLast
  if s.getLast? = some ']' ∧ fitsSigned index then some (.item index) else none

def namedSteps? (s : List Char) : Option (List Step) :=
  match s.splitOn '[' with
  | [] => none
  | name :: indices =>
      if name ≠ [] ∧ name.all isNameChar then
        (indices.mapM index?).map (.member (String.ofList name) :: ·)
      else none

/-- The place that a text describes; a text that describes none is a name itself. -/
def path (text : String) : List Step :=
  match (text.toList.splitOn '.').mapM namedSteps? with
  | some steps => steps.flatten
  | none => [.member text]

def assign (tree : Setting) (place : String) (value : Setting) : Setting :=
  tree.alterAt value.onto (path place)

def assignAll (tree : Setting) (layer : List (String × Setting)) : Setting :=
  layer.foldl (fun tree (place, value) => tree.assign place value) tree

end WordHunt.Setting
