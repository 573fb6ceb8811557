import WordHunt.Text.Scan

/-!
What a server sees of an address: the path and the query behind its name, in the form in which
they are sent.  Dots in a path are resolved, and characters that may not stand there are
written by their bytes.
-/

namespace WordHunt

open Text

def percentEncoded (c : Char) : List Char :=
  (String.utf8EncodeChar c).flatMap fun byte =>
    ['%', (Nat.digitChar (byte.toNat / 16)).toUpper, (Nat.digitChar (byte.toNat % 16)).toUpper]

def isVisible (c : Char) : Bool :=
  '!' ≤ c && c ≤ '~'

def isPathChar (c : Char) : Bool :=
  isVisible c && !(['"', '#', '<', '>', '?', '`', '{', '}'].contains c)

def isQueryChar (c : Char) : Bool :=
  isVisible c && !(['"', '#', '<', '>', '\''].contains c)

def encodeBy (isAllowed : Char → Bool) (s : List Char) : List Char :=
  s.flatMap fun c => if isAllowed c then [c] else percentEncoded c

def plainDots (segment : List Char) : List Char :=
  replaceText ['%', '2', 'e'] ['.'] (segment.map Char.toLower)

/-- Walks along the segments of a path; `done` are those of the path so far, last first. -/
def resolveOnto (done : List (List Char)) : List (List Char) → List (List Char)
  | [] => done.reverse
  | segment :: segments =>
      let dots := plainDots segment
      let upwards := dots = ['.', '.']
      if upwards ∨ dots = ['.'] then
        let done := if upwards then done.tail else done
        resolveOnto (if segments = [] then [] :: done else done) segments
      else resolveOnto (segment :: done) segments

def requestTarget (s : List Char) : List Char :=
  let s := (s.reverse.dropWhile (· ≤ ' ')).reverse.filter fun c =>
    !(c = '\t' || c = '\n' || c = '\r')
  let s := s.takeWhile (· ≠ '#')
  let path := (s.takeWhile (· ≠ '?')).map fun c => if c = '\\' then '/' else c
  let segments := resolveOnto [] ((path.splitOn '/').drop 1)
  let path := '/' :: ['/'].intercalate (segments.map (encodeBy isPathChar))
  match s.dropWhile (· ≠ '?') with
  | [] => path
  | mark :: query => path ++ mark :: encodeBy isQueryChar query

end WordHunt
