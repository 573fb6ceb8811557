import WordHunt.Page.NextLink
import WordHunt.Proofs.Page.Markup
import WordHunt.Proofs.Text.Numeral

/-!
# Reading the link to the next page

A linked page is made of text and links.  A link leads on if it is marked so or if its text begins
with the word "next", and it names the number behind the first "page" of its address that digits
follow.  The number read from a page is that of the first link that leads on and names one.
-/

namespace WordHunt.Page

open Text

/-! ## Linked pages -/

def isAddressChar (c : Char) : Bool :=
  c.isAlphanum || c = '/' || c = '.' || c = '-' || c = '_'

structure Link where
  isMarked : Bool
  address : List Char
  text : List Char
  isAddress : ∀ c ∈ address, isAddressChar c = true
  isPlain : '<' ∉ text

namespace Link

def attributes (link : Link) : List Char :=
  (if link.isMarked then [' ', 'r', 'e', 'l', '=', '"', 'n', 'e', 'x', 't', '"'] else []) ++
    ([' ', 'h', 'r', 'e', 'f', '=', '"'] ++ (link.address ++ ['"']))

def source (link : Link) : List Char :=
  ['<', 'a'] ++ (link.attributes ++ '>' :: (link.text ++ ['<', '/', 'a', '>']))

/-- The link is marked as the next one, or says so with the whole word that its text begins with. -/
def IsNext (link : Link) : Prop :=
  link.isMarked = true ∨
    ∃ blanks word after, link.text = blanks ++ (word ++ after) ∧
      (∀ c ∈ blanks, isBlank c = true) ∧ word.map Char.toLower = ['n', 'e', 'x', 't'] ∧
      continuesWord after.head? = false

end Link

/-- The text begins with the word "page", and these are the digits behind it, one or more. -/
def NumbersPage (s digits : List Char) : Prop :=
  ∃ word after, s = word ++ (digits ++ after) ∧ word.map Char.toLower = ['p', 'a', 'g', 'e'] ∧
    (digits ≠ [] ∧ ∀ c ∈ digits, c.isDigit = true) ∧ ∀ c ∈ after.head?, c.isDigit = false

/--
The number is that of the digits at the first place of the address that numbers a page, and it fits
into 32 bits.
-/
def Link.Names (link : Link) (number : Nat) : Prop :=
  ∃ before rest digits, link.address = before ++ rest ∧ NumbersPage rest digits ∧
    (∀ shorter longer, link.address = shorter ++ longer → (∃ other, NumbersPage longer other) →
      before.length ≤ shorter.length) ∧
    Nat.ofDigitChars 10 digits 0 = number ∧ number < 4294967296

inductive Passage where
  | plain (s : List Char) (isPlain : '<' ∉ s)
  | linked (link : Link)

def Passage.source : Passage → List Char
  | .plain s _ => s
  | .linked link => link.source

/-! ## Characters of an address -/

section AddressChar

variable {c : Char} (hc : isAddressChar c = true)
include hc

theorem toNat_of_isAddressChar : 0x20 < c.toNat ∧ c.toNat < 0x80 := by
  simp only [isAddressChar, Char.isAlphanum, Bool.or_eq_true, decide_eq_true_eq, isAlpha_iff,
    isDigit_iff] at hc
  rcases hc with (((hc | rfl) | rfl) | rfl) | rfl
  · omega
  all_goals decide

theorem isDecimalDigit_of_isAddressChar : isDecimalDigit c = c.isDigit := by
  have hcode : ¬ c.toNat ≥ 0x80 := by
    have := toNat_of_isAddressChar hc
    omega
  simp [isDecimalDigit, hcode]

theorem ends_of_isAddressChar : (isQuote c || isBlank c) = false := by
  have hcode := toNat_of_isAddressChar hc
  rw [isBlank_of_visible hcode.1 hcode.2, Bool.or_false, Bool.eq_false_iff]
  intro hquote
  rw [isQuote, Bool.or_eq_true, decide_eq_true_eq, decide_eq_true_eq] at hquote
  rcases hquote with rfl | rfl <;> exact absurd hc (by decide)

end AddressChar

namespace Link

variable (link : Link)

theorem notMem_address {c : Char} (hc : isAddressChar c = false) : c ∉ link.address := by
  intro hmem
  rw [link.isAddress c hmem] at hc
  contradiction

theorem notMem_attributes {c : Char} (hc : isAddressChar c = false)
    (hsigns : [' ', '=', '"'].contains c = false) : c ∉ link.attributes := by
  have hletters : ∀ letter ∈ ['r', 'e', 'l', 'n', 'x', 't', 'h', 'f'], c ≠ letter := by
    rintro letter hletter rfl
    have hall : (['r', 'e', 'l', 'n', 'x', 't', 'h', 'f'].all isAddressChar) = true := by decide
    rw [List.all_eq_true.mp hall _ hletter] at hc
    contradiction
  have haddress := link.notMem_address hc
  unfold attributes
  cases link.isMarked <;> simp_all

/-! ## Which links lead on -/

theorem isRelNext_attributes : isRelNext link.attributes = link.isMarked := by
  unfold attributes
  cases link.isMarked with
  | true => rfl
  | false =>
      have hequals : '=' ∉ link.address ++ ['"'] := by
        simp [link.notMem_address (c := '=') rfl]
      -- Nothing starts in front of the value, and no assignment does in it.
      have hvalue : findPlace isRelNext.relNext? (some '"') (link.address ++ ['"']) = none := by
        refine findPlace_eq_none_iff.mpr fun first rest hsplit => ?_
        have hrest : '=' ∉ rest := fun hmem =>
          hequals (by rw [hsplit]; exact List.mem_append_right first hmem)
        rw [isRelNext.relNext?, assignment?_eq_none hrest]
        simp
      have hstart : isRelNext ([' ', 'h', 'r', 'e', 'f', '=', '"'] ++ (link.address ++ ['"'])) =
          (findPlace isRelNext.relNext? (some '"') (link.address ++ ['"'])).isSome := rfl
      rw [if_neg (by simp), List.nil_append, hstart, hvalue]
      rfl

def anchor (link : Link) : Anchor :=
  ⟨link.attributes, link.text⟩

theorem isNext_iff : link.anchor.isNext = true ↔ link.IsNext := by
  have hspelled {word : List Char} : word.map Char.toLower = ['n', 'e', 'x', 't'] ↔
      word.map foldLetter = ['n', 'e', 'x', 't'] :=
    map_toLower_iff (by decide) (by decide) (by decide)
  rw [Anchor.isNext, Bool.or_eq_true, anchor, isRelNext_attributes, isSome_wholeWord?, IsNext]
  refine or_congr_right ⟨?_, ?_⟩
  · rintro ⟨-, word, after, htext, hword, hafter⟩
    obtain ⟨blanks, hblanks, hsplit⟩ := exists_trimStart link.text
    exact ⟨blanks, word, after, by rw [← htext, ← hsplit], hblanks, hspelled.mpr hword, hafter⟩
  · rintro ⟨blanks, word, after, htext, hblanks, hword, hafter⟩
    refine ⟨rfl, word, after, ?_, hspelled.mp hword, hafter⟩
    cases word with
    | nil => simp at hword
    | cons c word =>
        have hletter : c.isAlpha = true := by
          rw [← Char.isLower_toLower_eq_isAlpha, (List.cons.inj hword).1]
          rfl
        rw [htext, trimStart_append hblanks]
        exact trimStart_cons (isBlank_of_isAlpha hletter) (word ++ after)

/-! ## Which numbers they name -/

theorem addressDigits?_attributes :
    addressDigits? link.attributes =
      findPlace (fun _ s => pageDigits? s) (some '"') (link.address ++ ['"']) := by
  have hequals : '=' ∉ link.address ++ ['"'] := by
    simp [link.notMem_address (c := '=') rfl]
  have hends : ∀ c ∈ link.address, (isQuote c || isBlank c) = false :=
    fun c hc => ends_of_isAddressChar (link.isAddress c hc)
  have hfind : ∀ before : Option Char, (fun _ s => pageDigits? s) before [] = none := fun _ => rfl
  rw [← searchValues_eq_findPlace hfind hends hequals, attributes]
  cases link.isMarked <;> rfl

end Link

theorem pageDigits?_eq_some_iff {s digits : List Char} :
    pageDigits? s = some digits ↔ ∃ word after, s = word ++ (digits ++ after) ∧
      word.map foldLetter = ['p', 'a', 'g', 'e'] ∧
      (digits ≠ [] ∧ ∀ c ∈ digits, isDecimalDigit c = true) ∧
      ∀ c ∈ after.head?, isDecimalDigit c = false := by
  rw [pageDigits?, Option.bind_eq_some_iff]
  constructor
  · rintro ⟨rest, hrest, hdigits⟩
    obtain ⟨word, rfl, hword⟩ := afterWord?_eq_some_iff.mp hrest
    split at hdigits
    · contradiction
    · next hne =>
      obtain rfl := Option.some.inj hdigits
      refine ⟨word, rest.dropWhile isDecimalDigit, by rw [List.takeWhile_append_dropWhile], hword,
        ⟨hne, fun c => List.mem_takeWhile_imp⟩, fun c hc => ?_⟩
      have hhead := List.head?_dropWhile_not isDecimalDigit rest
      rw [Option.mem_def.mp hc] at hhead
      exact hhead
  · rintro ⟨word, after, rfl, hword, ⟨hne, hdigits⟩, hafter⟩
    have hall : (digits ++ after).takeWhile isDecimalDigit = digits := by
      rw [List.takeWhile_append_of_pos hdigits]
      cases after with
      | nil => simp
      | cons c after => simp [hafter c rfl]
    refine ⟨digits ++ after, afterWord?_append hword _, ?_⟩
    rw [hall]
    split
    · contradiction
    · rfl

theorem exists_of_append_quote {s first rest : List Char} (hrest : rest ≠ [])
    (h : s ++ ['"'] = first ++ rest) : ∃ tail, s = first ++ tail ∧ rest = tail ++ ['"'] := by
  obtain ⟨tail, c, rfl⟩ := List.eq_nil_or_concat' rest |>.resolve_left hrest
  rw [← List.append_assoc] at h
  obtain ⟨hs, hc⟩ := List.append_inj' h rfl
  exact ⟨tail, hs, by rw [hc]⟩

theorem pageDigits?_address {s digits : List Char} (hs : ∀ c ∈ s, isAddressChar c = true) :
    pageDigits? (s ++ ['"']) = some digits ↔ NumbersPage s digits := by
  have hspelled {word : List Char} : word.map Char.toLower = ['p', 'a', 'g', 'e'] ↔
      word.map foldLetter = ['p', 'a', 'g', 'e'] :=
    map_toLower_iff (by decide) (by decide) (by decide)
  have hdigit {c : Char} (hc : c ∈ s) : isDecimalDigit c = c.isDigit :=
    isDecimalDigit_of_isAddressChar (hs c hc)
  rw [pageDigits?_eq_some_iff]
  constructor
  · rintro ⟨word, after, hsplit, hword, ⟨hne, hdigits⟩, hafter⟩
    have hmore : after ≠ [] := by
      rintro rfl
      rw [List.append_nil] at hsplit
      obtain ⟨tail, -, rfl⟩ := exists_of_append_quote hne hsplit
      exact absurd (hdigits '"' (by simp)) (by decide)
    rw [← List.append_assoc] at hsplit
    obtain ⟨tail, rfl, rfl⟩ := exists_of_append_quote hmore hsplit
    refine ⟨word, tail, List.append_assoc .., hspelled.mpr hword, ⟨hne, fun c hc => ?_⟩,
      fun c hc => ?_⟩
    · rw [← hdigit (by simp [hc])]
      exact hdigits c hc
    · rw [← hdigit (by simp [List.mem_of_mem_head? hc])]
      exact hafter c (List.mem_head?_append_of_mem_head? hc)
  · rintro ⟨word, after, rfl, hword, ⟨hne, hdigits⟩, hafter⟩
    refine ⟨word, after ++ ['"'], by simp, hspelled.mp hword, ⟨hne, fun c hc => ?_⟩, ?_⟩
    · rw [hdigit (by simp [hc])]
      exact hdigits c hc
    · cases after with
      | nil =>
          rintro c ⟨⟩
          decide
      | cons first after =>
          rintro c ⟨⟩
          rw [hdigit (by simp)]
          exact hafter first rfl

namespace Link

variable (link : Link)

theorem addressDigits?_eq_some_iff {digits : List Char} :
    addressDigits? link.attributes = some digits ↔
      ∃ before rest, link.address = before ++ rest ∧ NumbersPage rest digits ∧
        ∀ shorter longer, link.address = shorter ++ longer → (∃ other, NumbersPage longer other) →
          before.length ≤ shorter.length := by
  have hread {before rest digits : List Char} (h : link.address = before ++ rest) :
      pageDigits? (rest ++ ['"']) = some digits ↔ NumbersPage rest digits :=
    pageDigits?_address fun c hc =>
      link.isAddress c (by rw [h]; exact List.mem_append_right before hc)
  rw [addressDigits?_attributes, findPlace_eq_some_iff]
  constructor
  · rintro ⟨before, rest, hsplit, hfound, hnone⟩
    have hne : rest ≠ [] := by
      rintro rfl
      contradiction
    obtain ⟨tail, haddress, rfl⟩ := exists_of_append_quote hne hsplit
    refine ⟨before, tail, haddress, (hread haddress).mp hfound, ?_⟩
    rintro shorter longer hother ⟨other, hnumbers⟩
    by_contra hlt
    have hcontra := hnone shorter (longer ++ ['"']) (by rw [hother, List.append_assoc]) (by omega)
    rw [(hread hother).mpr hnumbers] at hcontra
    contradiction
  · rintro ⟨before, rest, haddress, hnumbers, hfirst⟩
    refine ⟨before, rest ++ ['"'], by rw [haddress, List.append_assoc],
      (hread haddress).mpr hnumbers, fun shorter longer hsplit hlt => ?_⟩
    rw [Option.eq_none_iff_forall_ne_some]
    intro other hother
    have hne : longer ≠ [] := by
      rintro rfl
      contradiction
    obtain ⟨tail, htail, rfl⟩ := exists_of_append_quote hne hsplit
    have hle := hfirst shorter tail htail ⟨other, (hread htail).mp hother⟩
    omega

theorem nextPage?_eq_some_iff {number : Nat} :
    link.anchor.nextPage? = some number ↔ link.IsNext ∧ link.Names number := by
  rw [Anchor.nextPage?, ← isNext_iff]
  have hnames : (addressDigits? link.attributes).bind (readNumeral pageBound) = some number ↔
      link.Names number := by
    simp only [Option.bind_eq_some_iff, addressDigits?_eq_some_iff, readNumeral_eq_some_iff, Names]
    constructor
    · rintro ⟨digits, ⟨before, rest, haddress, hnumbers, hfirst⟩, -, hvalue, hbound⟩
      exact ⟨before, rest, digits, haddress, hnumbers, hfirst, hvalue, hbound⟩
    · rintro ⟨before, rest, digits, haddress, hnumbers, hfirst, hvalue, hbound⟩
      obtain ⟨-, -, -, -, hdigits, -⟩ := id hnumbers
      exact ⟨digits, ⟨before, rest, haddress, hnumbers, hfirst⟩, hdigits, hvalue, hbound⟩
  split
  · next hnext => exact ⟨fun h => ⟨hnext, hnames.mp h⟩, fun h => hnames.mpr h.2⟩
  · next hnext => exact ⟨nofun, fun h => absurd h.1 hnext⟩

end Link

/-! ## The link to the next page -/

theorem anchor_source (link : Link) (t : List Char) :
    anchor (link.source ++ t) = some (link.anchor, link.source.length) := by
  have hapart : continuesWord link.attributes.head? = false := by
    unfold Link.attributes
    cases link.isMarked <;> rfl
  have hclosed := link.notMem_attributes (c := '>') rfl rfl
  have hfound := anchor_append hapart hclosed link.isPlain t
  have hlength : link.source.length = link.attributes.length + link.text.length + 7 := by
    simp [Link.source]
    omega
  rw [hlength, Link.anchor, ← hfound]
  simp [Link.source]

namespace Passage

def nextPage? : Passage → Option Nat
  | .plain _ _ => none
  | .linked link => link.anchor.nextPage?

theorem nextPageIn?_source (passages : List Passage) :
    nextPageIn? (String.ofList (passages.flatMap source)) = passages.findSome? nextPage? := by
  rw [nextPageIn?, String.toList_ofList]
  induction passages with
  | nil => rfl
  | cons passage passages ih =>
      rw [List.flatMap_cons, List.findSome?_cons]
      cases passage with
      | plain s isPlain =>
          rw [source, finds_append_of_passes (startsWith_anchor.passes isPlain _), ih]
          rfl
      | linked link =>
          have hsource : link.source ≠ [] := by simp [Link.source]
          rw [source, finds_append_of_some hsource (anchor_source link _), List.findSome?_cons, ih]
          rfl

theorem nextPage?_eq_some_iff {passage : Passage} {number : Nat} :
    passage.nextPage? = some number ↔
      ∃ link, passage = .linked link ∧ link.IsNext ∧ link.Names number := by
  cases passage with
  | plain s isPlain => simp [nextPage?]
  | linked link => simp [nextPage?, Link.nextPage?_eq_some_iff]

theorem nextPage?_eq_none_iff {passage : Passage} :
    passage.nextPage? = none ↔
      ∀ link, passage = .linked link → ¬ (link.IsNext ∧ ∃ number, link.Names number) := by
  simp only [Option.eq_none_iff_forall_ne_some, ne_eq, nextPage?_eq_some_iff]
  constructor
  · rintro h link rfl ⟨hnext, number, hnames⟩
    exact h number ⟨link, rfl, hnext, hnames⟩
  · rintro h number ⟨link, rfl, hnext, hnames⟩
    exact h link rfl ⟨hnext, number, hnames⟩

end Passage

/--
The number that a linked page names as its next is that of the first of its links that leads on and
names one, whatever links come before it.  There is none only if no link does both.
-/
theorem nextPageIn?_linked (passages : List Passage) :
    (∀ number, nextPageIn? (String.ofList (passages.flatMap Passage.source)) = some number ↔
      ∃ before link after, passages = before ++ .linked link :: after ∧
        link.IsNext ∧ link.Names number ∧
        ∀ earlier, .linked earlier ∈ before → ¬ (earlier.IsNext ∧ ∃ other, earlier.Names other)) ∧
    (nextPageIn? (String.ofList (passages.flatMap Passage.source)) = none ↔
      ∀ link, .linked link ∈ passages → ¬ (link.IsNext ∧ ∃ number, link.Names number)) := by
  have hnone (those : List Passage) : (∀ passage ∈ those, passage.nextPage? = none) ↔
      ∀ link, .linked link ∈ those → ¬ (link.IsNext ∧ ∃ number, link.Names number) := by
    simp only [Passage.nextPage?_eq_none_iff]
    exact ⟨fun h link hmem => h _ hmem link rfl, fun h _ hmem link heq => h link (heq ▸ hmem)⟩
  rw [Passage.nextPageIn?_source]
  refine ⟨fun number => ?_, List.findSome?_eq_none_iff.trans (hnone passages)⟩
  rw [List.findSome?_eq_some_iff]
  simp only [Passage.nextPage?_eq_some_iff, hnone]
  constructor
  · rintro ⟨before, _, after, hsplit, ⟨link, rfl, hnext, hnames⟩, hearlier⟩
    exact ⟨before, link, after, hsplit, hnext, hnames, hearlier⟩
  · rintro ⟨before, link, after, hsplit, hnext, hnames, hearlier⟩
    exact ⟨before, _, after, hsplit, ⟨link, rfl, hnext, hnames⟩, hearlier⟩

example :
    let passages : List Passage :=
      [.linked ⟨false, ['/', 'p', 'a', 'g', 'e', '1'], ['B', 'a', 'c', 'k'],
          List.all_eq_true.mp (by decide +kernel), by decide⟩,
        .plain [' ', '>'] (by decide),
        .linked ⟨true, ['p', 'a', 'g', 'e', '4', '2', '9', '4', '9', '6', '7', '2', '9', '6'], ['»'],
          List.all_eq_true.mp (by decide +kernel), by decide⟩,
        .linked ⟨false, ['p', 'a', 'g', 'e', '-', 'P', 'A', 'G', 'E', '0', '2', '.', '5'],
          [' ', 'N', 'e', 'x', 't'], List.all_eq_true.mp (by decide +kernel), by decide⟩]
    passages.flatMap Passage.source =
        ("<a href=\"/page1\">Back</a> ><a rel=\"next\" href=\"page4294967296\">»</a>" ++
          "<a href=\"page-PAGE02.5\"> Next</a>").toList ∧
      nextPageIn? (String.ofList (passages.flatMap Passage.source)) = some 2 := by
  decide +kernel

end WordHunt.Page
