import WordHunt.Page.Markup
import WordHunt.Text.Letter

/-!
The candidate words of a page.  Emphasis is removed first, so that a highlighted letter rejoins
its word; then every span marked invalid gives way to a space; the candidates are the unbroken
runs of the letters `A` to `Z` that have the length asked for.
-/

namespace WordHunt.Page

open Text

def withoutEmphasis (s : List Char) : List Char :=
  replaceFinds emphasisTag (fun _ => []) s

def withoutInvalid (s : List Char) : List Char :=
  replaceFinds invalidSpan (fun _ => [' ']) s

/-- The words of `length` letters on a page, in order and with repetitions. -/
def wordsIn (length : Nat) (body : String) : List String :=
  ((capitalRuns (withoutInvalid (withoutEmphasis body.toList))).filter
    (·.length = length)).map String.ofList

end WordHunt.Page
