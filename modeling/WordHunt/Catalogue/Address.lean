import WordHunt.Clues.Basic
import WordHunt.Text.Numeral
import WordHunt.Text.Scan

/-!
The addresses of a word catalogue.  Each page of the words that have a letter at a position has
an address made from a template, by putting values in place of `{length}`, `{letter}`,
`{ordinal}` and `{page}`, in this order.  On the first page nothing is put for `{page}`; on
later pages a suffix is, in which `{page}` stands for the number.
-/

namespace WordHunt

open Text

structure Catalogue where
  urlTemplate : String
  pageSuffix : String
  deriving DecidableEq, Repr

namespace Catalogue

def defaultTemplate : String :=
  "https://www.bestwordlist.com/\x7blength\x7dletterwordswith\x7bletter\x7d" ++
    "\x7bordinal\x7dletter\x7bpage\x7d.htm"

def defaultSuffix : String :=
  "page\x7bpage\x7d"

def ordinal (position : Nat) : String :=
  match position with
  | 0 => "first"
  | 1 => "second"
  | 2 => "third"
  | 3 => "fourth"
  | 4 => "fifth"
  | position => "position" ++ numeralText (placeNumber position)

def lengthMark : List Char := ['{', 'l', 'e', 'n', 'g', 't', 'h', '}']

def letterMark : List Char := ['{', 'l', 'e', 't', 't', 'e', 'r', '}']

def ordinalMark : List Char := ['{', 'o', 'r', 'd', 'i', 'n', 'a', 'l', '}']

def pageMark : List Char := ['{', 'p', 'a', 'g', 'e', '}']

def pagePart (catalogue : Catalogue) (page : Nat) : List Char :=
  if 1 < page then replaceText pageMark (numeral page) catalogue.pageSuffix.toList else []

/-- The address of a page, counted from one, of the words that have the seed. -/
def pageUrl (catalogue : Catalogue) (seed : Seed) (length page : Nat) : String :=
  let url := replaceText lengthMark (numeral length) catalogue.urlTemplate.toList
  let url := replaceText letterMark [seed.letter.toLower] url
  let url := replaceText ordinalMark (ordinal seed.position).toList url
  String.ofList (replaceText pageMark (catalogue.pagePart page) url)

end Catalogue

end WordHunt
