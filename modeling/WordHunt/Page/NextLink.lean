import WordHunt.Page.Markup
import WordHunt.Text.DecimalDigit
import WordHunt.Text.Numeral

/-!
The link to the next page: the first anchor that is marked `rel="next"` or whose text begins
with the word "next", and whose address names a page number.
-/

namespace WordHunt.Page

open Text

/-- Page numbers stay below this bound, that of a 32-bit word. -/
def pageBound : Nat := 0x100000000

def isRelNext (attributes : List Char) : Bool :=
  (findPlace relNext? none attributes).isSome
where
  relNext? (before : Option Char) (s : List Char) : Option Unit :=
    if continuesWord before then none
    else (assignment? ['r', 'e', 'l'] s).bind fun size =>
      wholeWord? ['n', 'e', 'x', 't'] none (s.drop size)

def pageDigits? (s : List Char) : Option (List Char) :=
  (afterWord? ['p', 'a', 'g', 'e'] s).bind fun rest =>
    match rest.takeWhile isDecimalDigit with
    | [] => none
    | digits => some digits

def addressDigits? (attributes : List Char) : Option (List Char) :=
  searchValues ['h', 'r', 'e', 'f'] (fun c => isQuote c || isBlank c)
    (fun _ s => pageDigits? s) none false 0 attributes

namespace Anchor

def isNext (anchor : Anchor) : Bool :=
  isRelNext anchor.attributes ||
    (wholeWord? ['n', 'e', 'x', 't'] none (trimStart anchor.text)).isSome

def nextPage? (anchor : Anchor) : Option Nat :=
  if anchor.isNext then
    (addressDigits? anchor.attributes).bind (readNumeral pageBound)
  else none

end Anchor

def nextPageIn? (body : String) : Option Nat :=
  (finds anchor body.toList).findSome? Anchor.nextPage?

end WordHunt.Page
