import WordHunt.Page.Markup
import WordHunt.Proofs.Text.AnyCase
import WordHunt.Proofs.Text.Blank
import WordHunt.Proofs.Text.Scan
import WordHunt.Proofs.Text.UpperCase

/-!
# What the finders of markup find

Every finder stops only at a `<`.  An emphasis tag is found up to its `>`, whatever its name is
spelled like, and a span is found up to its closing tag if an invalid class stands anywhere in the
value that it gives to its class.
-/

namespace WordHunt.Page

open Text

theorem startsWith_emphasisTag : StartsWith '<' emphasisTag := by
  intro c s hc
  rw [emphasisTag] <;> simp_all

theorem startsWith_invalidSpan : StartsWith '<' invalidSpan := by
  intro c s hc
  rw [invalidSpan]
  simp_all

theorem startsWith_anchor : StartsWith '<' anchor := by
  intro c s hc
  rw [anchor]
  simp_all

/-! ## Emphasis tags -/

def sizeOfTag (s : List Char) : Nat :=
  (s.takeWhile (· ≠ '>')).length + 1

theorem sizeOfTag_append {s : List Char} (hs : '>' ∉ s) (t : List Char) :
    sizeOfTag (s ++ t) = s.length + sizeOfTag t := by
  have hpos : ∀ c ∈ s, decide (c ≠ '>') = true := by
    intro c hc
    exact decide_eq_true fun heq => hs (heq ▸ hc)
  unfold sizeOfTag
  rw [List.takeWhile_append_of_pos hpos, List.length_append, Nat.add_assoc]

theorem eq_sizeOfTag_of_tagRest? {s : List Char} {size : Nat} (h : tagRest? s = some size) :
    size = sizeOfTag s := by
  cases s with
  | nil => simp [tagRest?] at h
  | cons c s =>
      by_cases hc : c = '>'
      · subst hc
        simpa [tagRest?, sizeOfTag, eq_comm] using h
      · rw [tagRest?] at h
        · split at h
          · obtain ⟨⟨attributes, rest⟩, hcut, rfl⟩ := Option.map_eq_some_iff.mp h
            unfold cutAt? at hcut
            split at hcut
            · contradiction
            · cases hcut
              simp [sizeOfTag, hc]
          · contradiction
        · simpa using hc

theorem tagRest?_append {attributes : List Char} (hclosed : '>' ∉ attributes)
    (hapart : ∀ c ∈ attributes.head?, isBlank c = true) (t : List Char) :
    tagRest? (attributes ++ '>' :: t) = some (attributes.length + 1) := by
  cases attributes with
  | nil => rfl
  | cons c attributes =>
      rw [List.mem_cons, not_or] at hclosed
      rw [List.cons_append, tagRest?, if_pos (hapart c rfl), cutAt?_append hclosed.2]
      · rfl
      · simpa [eq_comm] using hclosed.1

theorem close_notMem_of_name {name : List Char} (hname : name.map foldLetter ∈ emphasisNames) :
    '>' ∉ name := by
  have hnames : (emphasisNames.all fun name => !name.contains (foldLetter '>')) = true := by
    decide
  intro hmem
  have hfree := List.all_eq_true.mp hnames _ hname
  simp [List.mem_map_of_mem hmem] at hfree

theorem eq_sizeOfTag_of_named {s name : List Char} (hname : name ∈ emphasisNames) {size : Nat}
    (h : emphasisTag.named s name = some size) : size = sizeOfTag s := by
  obtain ⟨rest, hrest, hsize⟩ := Option.bind_eq_some_iff.mp h
  obtain ⟨tail, htail, rfl⟩ := Option.map_eq_some_iff.mp hsize
  obtain ⟨start, rfl, rfl⟩ := afterWord?_eq_some_iff.mp hrest
  rw [sizeOfTag_append (close_notMem_of_name hname), eq_sizeOfTag_of_tagRest? htail,
    List.length_map]

theorem findSome?_named {name attributes : List Char} (hname : name.map foldLetter ∈ emphasisNames)
    (hclosed : '>' ∉ attributes) (hapart : ∀ c ∈ attributes.head?, isBlank c = true)
    (t : List Char) :
    emphasisNames.findSome? (emphasisTag.named (name ++ (attributes ++ '>' :: t))) =
      some (name.length + attributes.length + 1) := by
  have hfound : emphasisTag.named (name ++ (attributes ++ '>' :: t)) (name.map foldLetter) =
      some (name.length + (attributes.length + 1)) := by
    rw [emphasisTag.named, afterWord?_append rfl, Option.bind_some,
      tagRest?_append hclosed hapart, List.length_map]
    rfl
  obtain ⟨size, hsize⟩ : ∃ size,
      emphasisNames.findSome? (emphasisTag.named (name ++ (attributes ++ '>' :: t))) =
        some size := by
    rw [← Option.isSome_iff_exists, List.findSome?_isSome_iff]
    exact ⟨_, hname, by rw [hfound]; rfl⟩
  obtain ⟨other, hother, hnamed⟩ := List.exists_of_findSome?_eq_some hsize
  rw [hsize, eq_sizeOfTag_of_named hother hnamed, ← eq_sizeOfTag_of_named hname hfound,
    Nat.add_assoc]

theorem head?_ne_slash {name : List Char} (hname : name.map foldLetter ∈ emphasisNames)
    (s : List Char) : (name ++ s).head? ≠ some '/' := by
  have hnames : (emphasisNames.all fun name => name.head?.any (· ≠ '/')) = true := by decide
  have hletters := List.all_eq_true.mp hnames _ hname
  cases name with
  | nil => simp at hletters
  | cons c name =>
      intro heq
      obtain rfl : c = '/' := by simpa using heq
      exact absurd hletters (by simp [foldLetter])

/--
What stands in a tag of emphasis: one of the names, behind a slash if the tag closes, and possibly
attributes apart from it.
-/
def IsEmphasis (inside : List Char) : Prop :=
  ∃ slash name attributes, inside = slash ++ (name ++ attributes) ∧
    (slash = [] ∨ slash = ['/']) ∧ name.map foldLetter ∈ emphasisNames ∧
    ∀ c ∈ attributes.head?, isBlank c = true

theorem emphasisTag_of_isEmphasis {inside : List Char} (hclosed : '>' ∉ inside)
    (h : IsEmphasis inside) (t : List Char) :
    emphasisTag ('<' :: (inside ++ '>' :: t)) = some ((), inside.length + 2) := by
  obtain ⟨slash, name, attributes, rfl, hslash, hname, hapart⟩ := h
  have hclosed' : '>' ∉ attributes := by simp_all
  have hnamed := findSome?_named hname hclosed' hapart t
  have hletter := head?_ne_slash hname (attributes ++ '>' :: t)
  simp only [List.append_assoc, List.length_append]
  rcases hslash with rfl | rfl
  · rw [List.nil_append, emphasisTag, hnamed]
    · simp [Nat.add_assoc]
    · intro s hs
      exact hletter (by rw [hs]; rfl)
  · rw [List.cons_append, List.nil_append, emphasisTag, hnamed]
    simp only [Option.map_some, List.length_singleton]
    congr 2
    omega

theorem exists_of_findSome?_named {s t : List Char} (hclosed : '>' ∉ s) {size : Nat}
    (h : emphasisNames.findSome? (emphasisTag.named (s ++ '>' :: t)) = some size) :
    ∃ name attributes, s = name ++ attributes ∧ name.map foldLetter ∈ emphasisNames ∧
      ∀ c ∈ attributes.head?, isBlank c = true := by
  obtain ⟨_, hname, hnamed⟩ := List.exists_of_findSome?_eq_some h
  obtain ⟨rest, hrest, hsize⟩ := Option.bind_eq_some_iff.mp hnamed
  obtain ⟨tail, htail, -⟩ := Option.map_eq_some_iff.mp hsize
  obtain ⟨name, hsplit, rfl⟩ := afterWord?_eq_some_iff.mp hrest
  obtain ⟨attributes, rfl, rfl⟩ :
      ∃ attributes, s = name ++ attributes ∧ rest = attributes ++ '>' :: t := by
    rcases List.append_eq_append_iff.mp hsplit with ⟨beyond, rfl, hend⟩ | ⟨attributes, hs, hrest⟩
    · cases beyond with
      | nil => exact ⟨[], by simp, hend.symm⟩
      | cons c beyond =>
          obtain ⟨rfl, -⟩ := List.cons.inj hend
          exact absurd (List.mem_append_right s List.mem_cons_self) (close_notMem_of_name hname)
    · exact ⟨attributes, hs, hrest⟩
  refine ⟨name, attributes, rfl, hname, fun c hc => ?_⟩
  cases attributes with
  | nil => cases hc
  | cons first attributes =>
      obtain rfl : first = c := by simpa using hc
      rw [List.cons_append, tagRest?] at htail
      · split at htail
        · assumption
        · contradiction
      · rintro rfl
        simp at hclosed

theorem isEmphasis_of_emphasisTag {inside t : List Char} (hclosed : '>' ∉ inside)
    {found : Unit × Nat} (h : emphasisTag ('<' :: (inside ++ '>' :: t)) = some found) :
    IsEmphasis inside := by
  by_cases hslash : ∃ rest, inside = '/' :: rest
  · obtain ⟨rest, rfl⟩ := hslash
    rw [List.mem_cons, not_or] at hclosed
    rw [List.cons_append, emphasisTag] at h
    obtain ⟨size, hsize, -⟩ := Option.map_eq_some_iff.mp h
    obtain ⟨name, attributes, rfl, hname, hapart⟩ := exists_of_findSome?_named hclosed.2 hsize
    exact ⟨['/'], name, attributes, rfl, .inr rfl, hname, hapart⟩
  · rw [emphasisTag] at h
    · obtain ⟨size, hsize, -⟩ := Option.map_eq_some_iff.mp h
      obtain ⟨name, attributes, hinside, hname, hapart⟩ := exists_of_findSome?_named hclosed hsize
      exact ⟨[], name, attributes, hinside, .inl rfl, hname, hapart⟩
    · intro s hs
      cases inside with
      | nil => simp at hs
      | cons c inside => exact hslash ⟨inside, by rw [(List.cons.inj hs).1]⟩

/-! ## Values of attributes -/

def IsAssigning (name : List Char) (c : Char) : Prop :=
  foldLetter c ∈ name ∨ isBlank c = true ∨ c = '=' ∨ isQuote c = true

theorem exists_quote (s : List Char) :
    ∃ quote rest, s = quote ++ rest ∧ (∀ c ∈ quote, isQuote c = true) ∧
      quote.length = if s.head?.any isQuote then 1 else 0 := by
  cases s with
  | nil => exact ⟨[], [], by simp⟩
  | cons c s =>
      by_cases hc : isQuote c = true
      · exact ⟨[c], s, by simp [hc]⟩
      · exact ⟨[], c :: s, by simp [hc]⟩

theorem exists_assignment {name s : List Char} {size : Nat} (h : assignment? name s = some size) :
    ∃ assignment rest, s = assignment ++ rest ∧ assignment.length = size ∧
      ∀ c ∈ assignment, IsAssigning name c := by
  obtain ⟨afterName, hafter, hsize⟩ := Option.bind_eq_some_iff.mp h
  obtain ⟨start, rfl, hstart⟩ := afterWord?_eq_some_iff.mp hafter
  dsimp only at hsize
  split at hsize
  · rename_i afterEquals hequals
    have hblanks := List.prefix_iff_eq_append.mp (afterName.takeWhile_prefix isBlank)
    have hmore := List.prefix_iff_eq_append.mp (afterEquals.takeWhile_prefix isBlank)
    obtain ⟨quote, rest, hquote, hquotes, hlength⟩ :=
      exists_quote (afterEquals.drop (afterEquals.takeWhile isBlank).length)
    rw [hequals] at hblanks
    rw [hquote] at hmore
    refine ⟨start ++ (afterName.takeWhile isBlank ++
      '=' :: (afterEquals.takeWhile isBlank ++ quote)), rest, ?_, ?_, ?_⟩
    · conv_lhs => rw [← hblanks, ← hmore]
      simp
    · rw [← Option.some.inj hsize, ← hlength, ← hstart]
      simp only [List.length_append, List.length_cons, List.length_map]
      omega
    · intro c hc
      simp only [List.mem_append, List.mem_cons] at hc
      unfold IsAssigning
      rcases hc with hc | hc | rfl | hc | hc
      · left
        rw [← hstart]
        exact List.mem_map_of_mem hc
      · exact .inr (.inl (List.mem_takeWhile_imp hc))
      · simp
      · exact .inr (.inl (List.mem_takeWhile_imp hc))
      · exact .inr (.inr (.inr (hquotes c hc)))
  · contradiction

theorem assignment?_le {name before s : List Char} {c : Char} (hc : ¬ IsAssigning name c)
    {size : Nat} (h : assignment? name (before ++ c :: s) = some size) : size ≤ before.length := by
  obtain ⟨assignment, rest, heq, rfl, hall⟩ := exists_assignment h
  rcases List.append_eq_append_iff.mp heq with ⟨tail, rfl, hrest⟩ | ⟨tail, rfl, -⟩
  · cases tail with
    | nil => simp
    | cons first tail =>
        obtain ⟨rfl, -⟩ := List.cons.inj hrest
        exact absurd (hall c (by simp)) hc
  · simp

theorem isSome_searchValues {α : Type} {name : List Char} {ends : Char → Bool}
    {find : Option Char → List Char → Option α} {c : Char} (hc : ¬ IsAssigning name c)
    {value s : List Char} (hvalue : ∀ other ∈ value, ends other = false) {before : Option Char}
    (hfind : (find (value.getLast?.or before) (c :: s)).isSome) {skip : Nat}
    (hskip : skip ≤ value.length) :
    (searchValues name ends find before true skip (value ++ c :: s)).isSome := by
  induction value generalizing before skip with
  | nil =>
      obtain rfl : skip = 0 := by simpa using hskip
      obtain ⟨found, hfound⟩ := Option.isSome_iff_exists.mp hfind
      simp at hfound
      simp [searchValues, hfound]
  | cons first value ih =>
      rw [getLast?_cons_or] at hfind
      obtain ⟨hfirst, hvalue⟩ := List.forall_mem_cons.mp hvalue
      cases skip with
      | succ skip =>
          rw [List.cons_append, searchValues]
          exact ih hvalue hfind (by simpa using hskip)
      | zero =>
          -- A find before the place will do, and an assignment before it ends there at the latest.
          rw [List.cons_append, searchValues]
          split
          · rfl
          · split
            · rename_i size hassignment
              apply ih hvalue hfind
              split at hassignment
              · contradiction
              · rw [← List.cons_append] at hassignment
                have hle := assignment?_le hc hassignment
                rw [List.length_cons] at hle
                omega
            · rw [hfirst]
              exact ih hvalue hfind (Nat.zero_le _)

theorem assignment?_eq_none {name s : List Char} (hs : '=' ∉ s) : assignment? name s = none := by
  rw [assignment?]
  cases hname : afterWord? name s with
  | none => rfl
  | some afterName =>
      obtain ⟨start, rfl, -⟩ := afterWord?_eq_some_iff.mp hname
      simp only [Option.bind_eq_bind, Option.bind_some]
      split
      · rename_i afterEquals hequals
        have hmem : '=' ∈ afterName := List.mem_of_mem_drop (by rw [hequals]; simp)
        exact absurd (List.mem_append_right start hmem) hs
      · rfl

theorem searchValues_eq_findPlace {α : Type} {name : List Char} {ends : Char → Bool}
    {find : Option Char → List Char → Option α} (hempty : ∀ before, find before [] = none)
    {value : List Char} (hvalue : ∀ c ∈ value, ends c = false) {stop : Char}
    (hequals : '=' ∉ value ++ [stop]) (before : Option Char) :
    searchValues name ends find before true 0 (value ++ [stop]) =
      findPlace find before (value ++ [stop]) := by
  induction value generalizing before with
  | nil =>
      rw [List.nil_append] at hequals ⊢
      have hassignment := @assignment?_eq_none name _ hequals
      cases hfind : find before [stop] with
      | some found => simp [searchValues, findPlace, hfind]
      | none => simp [searchValues, findPlace, hfind, hassignment, hempty]
  | cons c value ih =>
      obtain ⟨hc, hvalue⟩ := List.forall_mem_cons.mp hvalue
      rw [List.cons_append] at hequals ⊢
      have hassignment := @assignment?_eq_none name _ hequals
      have hrest := ih hvalue (fun hmem => hequals (List.mem_cons_of_mem c hmem)) (some c)
      cases hfind : find before (c :: (value ++ [stop])) with
      | some found => simp [searchValues, findPlace, hfind]
      | none => simp [searchValues, findPlace, hfind, hassignment, hc, hrest]

/-! ## Invalid spans -/

theorem isBlank_of_isAlpha {c : Char} (hc : c.isAlpha = true) : isBlank c = false := by
  have hrange := (isAlpha_iff c).mp hc
  exact isBlank_of_visible (by omega) (by omega)

theorem not_isAssigning_of_isAlpha {name : List Char} {c : Char} (hc : c.isAlpha = true)
    (hname : foldLetter c ∉ name) : ¬ IsAssigning name c := by
  rintro (hfold | hblank | rfl | hquote)
  · exact hname hfold
  · rw [isBlank_of_isAlpha hc] at hblank
    contradiction
  · exact absurd hc (by decide)
  · rw [isQuote, Bool.or_eq_true, decide_eq_true_eq, decide_eq_true_eq] at hquote
    rcases hquote with rfl | rfl <;> exact absurd hc (by decide)

theorem isSome_wholeWord? {word s : List Char} {neighbour : Option Char} :
    (wholeWord? word neighbour s).isSome = true ↔
      continuesWord neighbour = false ∧ ∃ start after, s = start ++ after ∧
        start.map foldLetter = word ∧ continuesWord after.head? = false := by
  rw [wholeWord?]
  constructor
  · intro h
    split at h
    · next after hafter =>
      split at h
      · contradiction
      · next hapart =>
        obtain ⟨start, rfl, hstart⟩ := afterWord?_eq_some_iff.mp hafter
        simp only [Bool.or_eq_true, not_or, Bool.not_eq_true] at hapart
        exact ⟨hapart.1, start, after, rfl, hstart, hapart.2⟩
    · contradiction
  · rintro ⟨hneighbour, start, after, rfl, hstart, hafter⟩
    simp [afterWord?_append hstart, hneighbour, hafter]

theorem wholeWord?_append (word : List Char) {after : List Char} {neighbour : Option Char}
    (hbefore : continuesWord neighbour = false) (hafter : continuesWord after.head? = false) :
    wholeWord? (word.map foldLetter) neighbour (word ++ after) = some () := by
  rw [wholeWord?, afterWord?_append rfl]
  simp [hbefore, hafter]

section InvalidClass

variable {word : List Char} (hword : word.map Char.toLower ∈ invalidClasses)
include hword

theorem all_isLower_invalid : (word.map Char.toLower).all Char.isLower = true := by
  have hsmall : (invalidClasses.all fun word => word.all Char.isLower) = true := by decide
  exact List.all_eq_true.mp hsmall _ hword

theorem isSome_findInvalid {neighbour : Option Char} {after : List Char}
    (hbefore : continuesWord neighbour = false) (hafter : continuesWord after.head? = false) :
    (invalidClasses.findSome? (wholeWord? · neighbour (word ++ after))).isSome = true := by
  have hfound := wholeWord?_append word hbefore hafter
  rw [map_foldLetter (all_isLower_invalid hword) rfl] at hfound
  rw [List.findSome?_isSome_iff]
  exact ⟨_, hword, by rw [hfound]; rfl⟩

theorem exists_head_invalid :
    ∃ c rest, word = c :: rest ∧ ¬ IsAssigning ['c', 'l', 'a', 's', 's'] c := by
  cases word with
  | nil => simp [invalidClasses] at hword
  | cons c rest =>
      have hlower : c.toLower.isLower = true :=
        List.all_eq_true.mp (all_isLower_invalid hword) _ (by simp)
      have hfirst : c.toLower = 'i' ∨ c.toLower = 'r' := by
        simp only [invalidClasses, List.map_cons, List.mem_cons, List.cons.injEq,
          List.not_mem_nil, or_false] at hword
        exact hword.imp And.left And.left
      refine ⟨c, rest, rfl, not_isAssigning_of_isAlpha ?_ ?_⟩
      · rwa [Char.isLower_toLower_eq_isAlpha] at hlower
      · rw [foldLetter_of_isLower hlower]
        rcases hfirst with hfirst | hfirst <;> simp [hfirst]

end InvalidClass

def classAttributes (value : List Char) : List Char :=
  [' ', 'c', 'l', 'a', 's', 's', '=', '"'] ++ (value ++ ['"'])

theorem isInvalidClass_classAttributes {before word after : List Char}
    (hword : word.map Char.toLower ∈ invalidClasses)
    (hbefore : continuesWord before.getLast? = false) (hafter : continuesWord after.head? = false)
    (hquotes : ∀ c ∈ before, isQuote c = false) :
    isInvalidClass (classAttributes (before ++ (word ++ after))) = true := by
  have hneighbour : continuesWord (before.getLast?.or (some '"')) = false := by
    cases hlast : before.getLast? with
    | none => rfl
    | some last => rwa [hlast] at hbefore
  have hend : continuesWord (after ++ ['"']).head? = false := by
    cases after with
    | nil => rfl
    | cons first after => exact hafter
  have hfound := isSome_findInvalid hword hneighbour hend
  obtain ⟨c, rest, rfl, hc⟩ := exists_head_invalid hword
  -- The search enters the value with the quote before it.
  have hstart : isInvalidClass (classAttributes (before ++ (c :: rest ++ after))) =
      (searchValues ['c', 'l', 'a', 's', 's'] isQuote
        (fun before s => invalidClasses.findSome? (wholeWord? · before s))
        (some '"') true 0 (before ++ (c :: rest ++ after) ++ ['"'])).isSome := rfl
  have hsplit : before ++ (c :: rest ++ after) ++ ['"'] =
      before ++ c :: (rest ++ (after ++ ['"'])) := by simp
  rw [hstart, hsplit]
  exact isSome_searchValues hc hquotes hfound (Nat.zero_le _)

theorem continuesWord_head?_closed {attributes : List Char}
    (hapart : continuesWord attributes.head? = false) (s : List Char) :
    continuesWord (attributes ++ '>' :: s).head? = false := by
  cases attributes with
  | nil => rfl
  | cons c attributes => exact hapart

theorem invalidSpan_append {attributes content : List Char}
    (hapart : continuesWord attributes.head? = false) (hclosed : '>' ∉ attributes)
    (hinvalid : isInvalidClass attributes = true) (hcontent : '<' ∉ content) (t : List Char) :
    invalidSpan (['<', 's', 'p', 'a', 'n'] ++ (attributes ++ '>' :: (content ++
      (['<', '/', 's', 'p', 'a', 'n', '>'] ++ t)))) =
      some ((), attributes.length + content.length + 13) := by
  have hname (s : List Char) : afterWord? ['s', 'p', 'a', 'n'] ('s' :: 'p' :: 'a' :: 'n' :: s) =
      some s := rfl
  have hclose : afterWord? ['<', '/', 's', 'p', 'a', 'n', '>']
      (['<', '/', 's', 'p', 'a', 'n', '>'] ++ t) = some t := rfl
  have hend : beforeWord? ['<', '/', 's', 'p', 'a', 'n', '>']
      (content ++ (['<', '/', 's', 'p', 'a', 'n', '>'] ++ t)) = some content :=
    beforeWord?_append (by decide) hcontent hclose
  generalize content ++ (['<', '/', 's', 'p', 'a', 'n', '>'] ++ t) = rest at hend ⊢
  rw [List.cons_append, invalidSpan]
  simp only [List.cons_append, List.nil_append, Option.bind_eq_bind, hname, Option.bind_some,
    continuesWord_head?_closed hapart, cutAt?_append hclosed, hinvalid, hend]
  rfl

/-! ## Anchors -/

theorem anchor_append {attributes text : List Char}
    (hapart : continuesWord attributes.head? = false) (hclosed : '>' ∉ attributes)
    (htext : '<' ∉ text) (t : List Char) :
    anchor (['<', 'a'] ++ (attributes ++ '>' :: (text ++ (['<', '/', 'a', '>'] ++ t)))) =
      some (⟨attributes, text⟩, attributes.length + text.length + 7) := by
  have hname (s : List Char) : afterWord? ['a'] ('a' :: s) = some s := rfl
  have hclose : afterWord? ['<', '/', 'a', '>'] (['<', '/', 'a', '>'] ++ t) = some t := rfl
  have hend : beforeWord? ['<', '/', 'a', '>'] (text ++ (['<', '/', 'a', '>'] ++ t)) = some text :=
    beforeWord?_append (by decide) htext hclose
  generalize text ++ (['<', '/', 'a', '>'] ++ t) = rest at hend ⊢
  rw [List.cons_append, anchor]
  simp only [List.cons_append, List.nil_append, Option.bind_eq_bind, hname, Option.bind_some,
    continuesWord_head?_closed hapart, cutAt?_append hclosed, hend]
  rfl

end WordHunt.Page
