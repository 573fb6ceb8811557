import WordHunt.Page.NextLink
import WordHunt.Page.Words

/-!
What a page of a word catalogue holds: words and the number of the next page.
-/

namespace WordHunt

structure Page where
  words : List String
  nextPage : Option Nat
  deriving DecidableEq, Repr

def Page.ofBody (length : Nat) (body : String) : Page where
  words := Page.wordsIn length body
  nextPage := Page.nextPageIn? body

end WordHunt
