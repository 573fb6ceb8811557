/-!
Lines of a text.  A line feed ends a line, together with one carriage return before it; what
follows the last line feed is a line if it is not empty.
-/

namespace WordHunt.Text

def dropReturn (s : List Char) : List Char :=
  if s.getLast? = some '\r' then s.dropLast else s

def linesOfPieces : List (List Char) → List (List Char)
  | [] => []
  | [last] => if last = [] then [] else [last]
  | piece :: next :: pieces => dropReturn piece :: linesOfPieces (next :: pieces)

def lines (s : List Char) : List (List Char) :=
  linesOfPieces (s.splitOn '\n')

def joinWith (separator : String) (texts : List String) : String :=
  String.ofList (separator.toList.intercalate (texts.map String.toList))

end WordHunt.Text
