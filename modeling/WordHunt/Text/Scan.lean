import WordHunt.Text.Blank
import WordHunt.Text.WordChar

/-!
Searching a text from left to right.  A finder looks at the characters from some place on and
says what starts right there and how many characters it takes.  Scanning cuts a text into what
a finder finds and the characters in between: at each place the finder is asked once, and after
a find the scan goes on behind it, so finds never overlap.
-/

namespace WordHunt.Text

/-- What starts at the head of a text, with the number of characters that it takes. -/
abbrev Finder (α : Type) := List Char → Option (α × Nat)

inductive Piece (α : Type) where
  | plain (c : Char)
  | found (a : α)
  deriving DecidableEq, Repr

/-- Scans on with the pieces `done`, the last one first; `skip` characters belong to a find. -/
def scanOnto {α : Type} (find : Finder α) : List (Piece α) → Nat → List Char → List (Piece α)
  | done, _, [] => done.reverse
  | done, skip + 1, _ :: s => scanOnto find done skip s
  | done, 0, c :: s =>
      match find (c :: s) with
      | some (a, size) => scanOnto find (.found a :: done) (size - 1) s
      | none => scanOnto find (.plain c :: done) 0 s

def scan {α : Type} (find : Finder α) (s : List Char) : List (Piece α) :=
  scanOnto find [] 0 s

def replaceFinds {α : Type} (find : Finder α) (replacement : α → List Char) (s : List Char) :
    List Char :=
  (scan find s).flatMap fun
    | .plain c => [c]
    | .found a => replacement a

def finds {α : Type} (find : Finder α) (s : List Char) : List α :=
  (scan find s).filterMap fun
    | .plain _ => none
    | .found a => some a

def replaceText (pattern replacement : List Char) (s : List Char) : List Char :=
  replaceFinds (fun s => if pattern.isPrefixOf s then some ((), pattern.length) else none)
    (fun _ => replacement) s

/--
The small letter under which letters are compared when case does not matter.  The long s and
the Kelvin sign count as the letters whose shapes they are.
-/
def foldLetter (c : Char) : Char :=
  if c = 'ſ' then 's' else if c = '\u212A' then 'k' else c.toLower

def afterWord? : List Char → List Char → Option (List Char)
  | [], s => some s
  | _ :: _, [] => none
  | w :: word, c :: s => if foldLetter c = w then afterWord? word s else none

def beforeWordOnto? (word : List Char) : List Char → List Char → Option (List Char)
  | before, [] => if word = [] then some before.reverse else none
  | before, c :: s =>
      match afterWord? word (c :: s) with
      | some _ => some before.reverse
      | none => beforeWordOnto? word (c :: before) s

def beforeWord? (word s : List Char) : Option (List Char) :=
  beforeWordOnto? word [] s

def cutAt? (stop : Char) (s : List Char) : Option (List Char × List Char) :=
  match s.dropWhile (· ≠ stop) with
  | [] => none
  | _ :: rest => some (s.takeWhile (· ≠ stop), rest)

def findPlace {α : Type} (test : Option Char → List Char → Option α) :
    Option Char → List Char → Option α
  | before, [] => test before []
  | before, c :: s =>
      match test before (c :: s) with
      | some a => some a
      | none => findPlace test (some c) s

end WordHunt.Text
