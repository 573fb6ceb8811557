import WordHunt.Proofs.Catalogue.Ending
import WordHunt.Proofs.Catalogue.Template

/-!
# Different pages have different addresses

Where the template and the suffix have a place for the page, its number stands in the address, and
nothing that is put in before takes the place away.  So the address tells which page it is of.  The
usual address can be read from its head to its end, and tells the length, the letter and the
position as well.
-/

namespace WordHunt

open Text

variable {σ : Type}

namespace Catalogue

/-! ## Pages -/

section Pages

variable {catalogue : Catalogue}

theorem pagePart_inj (hsuffix : pageMark <:+: catalogue.pageSuffix.toList) {page other : Nat}
    (hpage : 1 ≤ page) (hother : 1 ≤ other) :
    catalogue.pagePart page = catalogue.pagePart other ↔ page = other := by
  have hmark : OpensWith '{' pageMark := Placeholder.page.opensWith_mark
  have hne (number : Nat) :
      replaceText pageMark (numeral number) catalogue.pageSuffix.toList ≠ [] := by
    intro hnil
    have hinfix := hmark.infix_replaceText (numeral number) hsuffix
    rw [hnil, List.infix_nil] at hinfix
    exact numeral_ne_nil number hinfix
  constructor
  · intro h
    rw [pagePart, pagePart] at h
    split at h <;> split at h
    · exact numeral_inj.mp ((hmark.replaceText_inj hsuffix).mp h)
    · exact absurd h (hne page)
    · exact absurd h.symm (hne other)
    · omega
  · exact congrArg catalogue.pagePart

theorem pageUrl_eq_pageUrl_iff (htemplate : pageMark <:+: catalogue.urlTemplate.toList)
    (seed : Seed) (length : Nat) {page other : Nat} :
    catalogue.pageUrl seed length page = catalogue.pageUrl seed length other ↔
      catalogue.pagePart page = catalogue.pagePart other := by
  have hmark : OpensWith '{' pageMark := Placeholder.page.opensWith_mark
  let value := valueOf seed length []
  -- The value of the page comes in last, and the other values leave its mark where it is.
  let url := fill value .ordinal (fill value .letter (fill value .length
    catalogue.urlTemplate.toList))
  have hlength := infix_fill value .length .page (by decide) htemplate
  have hletter := infix_fill value .letter .page (by decide) hlength
  have hordinal : pageMark <:+: url := infix_fill value .ordinal .page (by decide) hletter
  have hurl (number : Nat) : catalogue.pageUrl seed length number =
      String.ofList (replaceText pageMark (catalogue.pagePart number) url) := rfl
  rw [hurl, hurl, String.ofList_inj, hmark.replaceText_inj hordinal]

end Pages

end Catalogue

namespace Harvester

open Catalogue

/--
No two pages have one address.  So a harvest, whoever answers, asks for an address of its own for
each of its pages, and goes back to none.
-/
theorem pageUrl_injOn_pages (harvester : Harvester)
    (htemplate : pageMark <:+: harvester.catalogue.urlTemplate.toList)
    (hsuffix : pageMark <:+: harvester.catalogue.pageSuffix.toList) (seed : Seed) (length : Nat) :
    let pageUrl := harvester.catalogue.pageUrl seed length
    Set.InjOn pageUrl {page | 1 ≤ page} ∧
      ∀ (partner : Partner σ) (state : σ), ∃ (last : Nat) (attempts : Nat → Nat),
        asked ((harvester.harvest seed length).hold partner state).events =
            (List.range' 1 last).flatMap (fun page =>
              (List.range' 1 (attempts page)).map fun number => (.get (pageUrl page), number)) ∧
          (∀ page, 1 ≤ attempts page) ∧ ((List.range' 1 last).map pageUrl).Nodup := by
  intro pageUrl
  have hinj : Set.InjOn pageUrl {page | 1 ≤ page} := fun page hpage other hother h =>
    (pagePart_inj hsuffix hpage hother).mp
      ((pageUrl_eq_pageUrl_iff htemplate seed length).mp h)
  refine ⟨hinj, fun partner state => ?_⟩
  obtain ⟨last, walk⟩ := harvester.exists_walk seed length partner {} 1 state
  choose attempts hfirst hlimit hasked using
    harvester.exists_asked_visit seed length partner state
  refine ⟨last, attempts, walk.asked_eq hasked, hfirst, ?_⟩
  refine List.Nodup.map_on (fun page hpage other hother => ?_) List.nodup_range'
  exact hinj (List.mem_range'_1.mp hpage).1 (List.mem_range'_1.mp hother).1

/-- A letter may look like the beginning of a placeholder, and the page may come twice. -/
theorem pageUrl_injOn_pages_sample :
    let harvester : Harvester :=
      ⟨⟨"/\x7bletter\x7dpage\x7d\x7bpage\x7d\x7bpage\x7d", "-\x7b\x7bpage\x7d-\x7bpage\x7d"⟩,
        .catalogue, .zero⟩
    let pageUrl := harvester.catalogue.pageUrl ⟨'{', 0⟩ 5
    pageMark <:+: harvester.catalogue.urlTemplate.toList ∧
      pageMark <:+: harvester.catalogue.pageSuffix.toList ∧
      Set.InjOn pageUrl {page | 1 ≤ page} ∧
      pageUrl 1 = "/" ∧ pageUrl 2 = "/-\x7b2-2-\x7b2-2-\x7b2-2" := by
  intro harvester pageUrl
  have htemplate : pageMark <:+: harvester.catalogue.urlTemplate.toList := by decide
  have hsuffix : pageMark <:+: harvester.catalogue.pageSuffix.toList := by decide
  have hinj := (@pageUrl_injOn_pages Unit harvester htemplate hsuffix ⟨'{', 0⟩ 5).1
  exact ⟨htemplate, hsuffix, hinj, by decide, by decide⟩

end Harvester

namespace Catalogue

/-! ## The usual addresses -/

def usual : Catalogue :=
  ⟨defaultTemplate, defaultSuffix⟩

def site : List Char :=
  "https://www.bestwordlist.com/".toList

def wordsWith : List Char :=
  ['l', 'e', 't', 't', 'e', 'r', 'w', 'o', 'r', 'd', 's', 'w', 'i', 't', 'h']

def addressEnd (position page : Nat) : List Char :=
  (ordinal position).toList ++ ("letter".toList ++ (usual.pagePart page ++ ".htm".toList))

theorem pageUrl_usual {seed : Seed} (hletter : isCapital seed.letter = true) (length page : Nat) :
    usual.pageUrl seed length page =
      String.ofList (site ++ (numeral length ++
        (wordsWith ++ seed.letter.toLower :: addressEnd seed.position page))) := by
  let parts : List TemplatePart :=
    [.plain site (by decide), .placeholder .length, .plain wordsWith (by decide),
      .placeholder .letter, .placeholder .ordinal, .plain "letter".toList (by decide),
      .placeholder .page, .plain ".htm".toList (by decide)]
  have husual : usual = ⟨String.ofList (render Placeholder.mark parts), defaultSuffix⟩ := by decide
  have hrender := pageUrl_render parts defaultSuffix hletter length page
  rw [← husual] at hrender
  rw [hrender]
  simp [parts, render, TemplatePart.text, valueOf, addressEnd]

def leadingPosition? : List Char → Option (Nat × List Char)
  | 'f' :: 'i' :: 'r' :: 's' :: 't' :: rest => some (0, rest)
  | 's' :: 'e' :: 'c' :: 'o' :: 'n' :: 'd' :: rest => some (1, rest)
  | 't' :: 'h' :: 'i' :: 'r' :: 'd' :: rest => some (2, rest)
  | 'f' :: 'o' :: 'u' :: 'r' :: 't' :: 'h' :: rest => some (3, rest)
  | 'f' :: 'i' :: 'f' :: 't' :: 'h' :: rest => some (4, rest)
  | 'p' :: 'o' :: 's' :: 'i' :: 't' :: 'i' :: 'o' :: 'n' :: rest =>
      (leadingNumber? rest).map fun (place, rest) => (place - 1, rest)
  | _ => none

theorem leadingPosition?_ordinal {position : Nat} (h : position < wordBound - 1)
    {rest : List Char} (hrest : ∀ c ∈ rest.head?, c.isDigit = false) :
    leadingPosition? ((ordinal position).toList ++ rest) = some (position, rest) := by
  have hplace : placeNumber position = position + 1 := placeNumber_of_lt (by omega)
  unfold ordinal
  split
  case h_6 =>
    have hnumber := leadingNumber?_numeral (position + 1) hrest
    simp [leadingPosition?, numeralText, hplace, hnumber]
  all_goals rfl

theorem addressEnd_inj {position other page next : Nat} (hposition : position < wordBound - 1)
    (hother : other < wordBound - 1) (hpage : 1 ≤ page) (hnext : 1 ≤ next) :
    addressEnd position page = addressEnd other next ↔ position = other ∧ page = next := by
  constructor
  · intro h
    have hread := congrArg leadingPosition? h
    rw [addressEnd, addressEnd, leadingPosition?_ordinal hposition (by simp),
      leadingPosition?_ordinal hother (by simp), Option.some.injEq, Prod.mk.injEq,
      List.append_cancel_left_eq, List.append_cancel_right_eq] at hread
    have hsuffix : pageMark <:+: usual.pageSuffix.toList := by decide
    exact ⟨hread.1, (pagePart_inj hsuffix hpage hnext).mp hread.2⟩
  · rintro ⟨rfl, rfl⟩
    rfl

/--
The usual address of a page tells everything: the letter, the position, the length and the page.
The last position of all is left out, since its number is zero.
-/
theorem pageUrl_usual_injOn :
    Set.InjOn (fun (seed, length, page) => usual.pageUrl seed length page)
      {(seed, _, page) : Seed × Nat × Nat |
        isCapital seed.letter = true ∧ seed.position < wordBound - 1 ∧ 1 ≤ page} := by
  rintro ⟨⟨letter, position⟩, length, page⟩ ⟨hletter, hposition, hpage⟩
    ⟨⟨otherLetter, other⟩, otherLength, next⟩ ⟨hotherLetter, hother, hnext⟩ h
  simp only at hletter hposition hpage hotherLetter hother hnext h
  rw [pageUrl_usual hletter, pageUrl_usual hotherLetter, String.ofList_inj,
    List.append_cancel_left_eq] at h
  have hread := congrArg leadingNumber? h
  rw [leadingNumber?_numeral length (by simp [wordsWith]),
    leadingNumber?_numeral otherLength (by simp [wordsWith]), Option.some.injEq, Prod.mk.injEq,
    List.append_cancel_left_eq, List.cons.injEq] at hread
  obtain ⟨rfl, hsame, hend⟩ := hread
  obtain rfl := (toLower_inj hletter hotherLetter).mp hsame
  obtain ⟨rfl, rfl⟩ := (addressEnd_inj hposition hother hpage hnext).mp hend
  rfl

theorem pageUrl_usual_injOn_sample :
    usual.pageUrl ⟨'Q', 9⟩ 15 12 ≠ usual.pageUrl ⟨'Q', 100⟩ 15 2 := by
  intro h
  have hsame := @pageUrl_usual_injOn (⟨'Q', 9⟩, 15, 12) ⟨by decide, by decide, by decide⟩
    (⟨'Q', 100⟩, 15, 2) ⟨by decide, by decide, by decide⟩ h
  exact absurd hsame (by decide)

end Catalogue

end WordHunt
