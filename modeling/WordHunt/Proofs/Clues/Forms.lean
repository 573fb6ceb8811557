import WordHunt.Clues.Line
import WordHunt.Proofs.Text.Blank

/-!
# The forms of a clue line

Each form is a pattern that says what a line consists of, part by part.  A line is read as the
form that it has: reading finds every form, finds nothing else, and no line has two of them, since
what follows the first character and the blanks behind it tells the forms apart.
-/

namespace WordHunt

open Text

/-! ## Patterns -/

namespace ClueLine

/-- A capital, blanks, AT, blanks and decimal digits. -/
def IsExact (line : List Char) (letter : Char) (digits : List Char) : Prop :=
  isCapital letter = true ∧ digits ≠ [] ∧ (∀ c ∈ digits, isDecimalDigit c = true) ∧
    ∃ first second, IsBlanks first ∧ IsBlanks second ∧
      line = letter :: (first ++ (['A', 'T'] ++ (second ++ digits)))

/-- NO, blanks and a rest. -/
def IsAbsent (line rest : List Char) : Prop :=
  ∃ blanks, IsBlanks blanks ∧ line = ['N', 'O'] ++ (blanks ++ rest)

/-- Possibly blanks and a comma among them, NOT, blanks, AT, blanks and a part made of decimal
digits, blanks and commas. -/
def IsExclusion (tail part : List Char) : Prop :=
  (∀ c ∈ part, isListed c = true) ∧
    ∃ first comma second third fourth, (∀ c ∈ first, isBlank c = true) ∧
      (comma = [] ∨ comma = [',']) ∧ (∀ c ∈ second, isBlank c = true) ∧
      IsBlanks third ∧ IsBlanks fourth ∧
      tail = first ++ (comma ++ (second ++ (['N', 'O', 'T'] ++ (third ++ (['A', 'T'] ++
        (fourth ++ part))))))

/-- A capital, blanks, IN, blanks and WORD, and possibly an exclusion; without one its part is
empty. -/
def IsPresent (line : List Char) (letter : Char) (part : List Char) : Prop :=
  isCapital letter = true ∧ ∃ first second tail, IsBlanks first ∧ IsBlanks second ∧
    ((tail = [] ∧ part = []) ∨ IsExclusion tail part) ∧
    line = letter :: (first ++ (['I', 'N'] ++ (second ++ (['W', 'O', 'R', 'D'] ++ tail))))

/-- LENGTH, possibly blanks, a colon, possibly blanks, and decimal digits. -/
def IsLength (line digits : List Char) : Prop :=
  digits ≠ [] ∧ (∀ c ∈ digits, isDecimalDigit c = true) ∧
    ∃ first second, (∀ c ∈ first, isBlank c = true) ∧ (∀ c ∈ second, isBlank c = true) ∧
      line = ['L', 'E', 'N', 'G', 'T', 'H'] ++ (first ++ ([':'] ++ (second ++ digits)))

/-! ## Reading parts of a line -/

@[simp] theorem after?_append (word s : List Char) : after? word (word ++ s) = some s := by
  simp [after?]

theorem eq_append_of_after? {word s rest : List Char} (h : after? word s = some rest) :
    s = word ++ rest := by
  rw [after?] at h
  split at h
  · next hprefix =>
      obtain ⟨tail, rfl⟩ := List.isPrefixOf_iff_prefix.mp hprefix
      simpa using h
  · cases h

theorem afterBlanks?_append {blanks : List Char} (h : IsBlanks blanks) (s : List Char) :
    afterBlanks? (blanks ++ s) = some (trimStart s) := by
  obtain ⟨hne, hblanks⟩ := h
  obtain ⟨c, rest, rfl⟩ := List.exists_cons_of_ne_nil hne
  obtain ⟨hc, hrest⟩ := List.forall_mem_cons.mp hblanks
  rw [List.cons_append, afterBlanks?, if_pos hc, trimStart_append hrest]

theorem exists_of_afterBlanks? {s rest : List Char} (h : afterBlanks? s = some rest) :
    trimStart rest = rest ∧ ∃ blanks, IsBlanks blanks ∧ s = blanks ++ rest := by
  cases s with
  | nil => cases h
  | cons c s =>
      rw [afterBlanks?] at h
      split at h
      · next hc =>
          obtain ⟨blanks, hblanks, hs⟩ := exists_trimStart s
          cases h
          refine ⟨trimStart_trimStart s, c :: blanks, ⟨List.cons_ne_nil c blanks, ?_⟩, ?_⟩
          · exact List.forall_mem_cons.mpr ⟨hc, hblanks⟩
          · rw [List.cons_append, ← hs]
      · cases h

theorem letter?_cons {letter : Char} (hletter : isCapital letter = true) {blanks : List Char}
    (h : IsBlanks blanks) (s : List Char) :
    letter? (letter :: (blanks ++ s)) = some (letter, trimStart s) := by
  rw [letter?, if_pos hletter, afterBlanks?_append h, Option.map_some]

theorem exists_of_letter? {s rest : List Char} {letter : Char}
    (h : letter? s = some (letter, rest)) :
    isCapital letter = true ∧ ∃ blanks, IsBlanks blanks ∧ s = letter :: (blanks ++ rest) := by
  cases s with
  | nil => cases h
  | cons c s =>
      rw [letter?] at h
      split at h
      · next hc =>
          obtain ⟨rest', hrest, hpair⟩ := Option.map_eq_some_iff.mp h
          cases hpair
          obtain ⟨-, blanks, hblanks, rfl⟩ := exists_of_afterBlanks? hrest
          exact ⟨hc, blanks, hblanks, rfl⟩
      · cases h

theorem digits?_eq_some_iff {s digits : List Char} :
    digits? s = some digits ↔ s = digits ∧ digits ≠ [] ∧ ∀ c ∈ digits, isDecimalDigit c = true := by
  rw [digits?, Option.ite_none_right_eq_some, List.all_eq_true]
  constructor
  · rintro ⟨⟨hne, hall⟩, hsame⟩
    cases hsame
    exact ⟨rfl, hne, hall⟩
  · rintro ⟨rfl, hne, hall⟩
    exact ⟨⟨hne, hall⟩, rfl⟩

theorem trimStart_of_digits {digits : List Char} (h : ∀ c ∈ digits, isDecimalDigit c = true) :
    trimStart digits = digits := by
  cases digits with
  | nil => rfl
  | cons c digits =>
      exact trimStart_cons (isBlank_of_isDecimalDigit (h c List.mem_cons_self)) digits

theorem trimStart_word {c : Char} (hc : isBlank c = false) (word s : List Char) :
    trimStart ((c :: word) ++ s) = (c :: word) ++ s :=
  trimStart_cons hc (word ++ s)

/-! ## Lists between commas -/

def fields (s : List Char) : List (List Char) :=
  (s.splitOn ',').map trim

theorem fields_cons {c : Char} (hc : isBlank c = true) (s : List Char) :
    fields (c :: s) = fields s := by
  have hcomma : (c == ',') = false := by
    refine Bool.eq_false_iff.mpr fun heq => ?_
    rw [beq_iff_eq.mp heq] at hc
    exact absurd hc (by decide)
  obtain ⟨head, pieces, hpieces⟩ := List.exists_cons_of_ne_nil (List.splitOnP_ne_nil (· == ',') s)
  have htrim : trim ([c] ++ head) = trim head := trim_append_left (by simpa using hc) head
  rw [fields, fields, List.splitOn, List.splitOn, List.splitOnP_cons_eq_if_modifyHead, hpieces]
  simpa [hcomma] using htrim

theorem fields_append {blanks : List Char} (h : ∀ c ∈ blanks, isBlank c = true) (s : List Char) :
    fields (blanks ++ s) = fields s := by
  induction blanks with
  | nil => rfl
  | cons c blanks ih =>
      obtain ⟨hc, hblanks⟩ := List.forall_mem_cons.mp h
      rw [List.cons_append, fields_cons hc, ih hblanks]

theorem fields_trimStart (s : List Char) : fields (trimStart s) = fields s := by
  obtain ⟨blanks, hblanks, hs⟩ := exists_trimStart s
  rw [hs, fields_append hblanks, trimStart_append hblanks, trimStart_trimStart]

theorem mem_intercalate {separator piece : List Char} {pieces : List (List Char)} {c : Char}
    (hpiece : piece ∈ pieces) (hc : c ∈ piece) : c ∈ separator.intercalate pieces := by
  induction pieces with
  | nil => cases hpiece
  | cons first pieces ih =>
      cases pieces with
      | nil => simpa [List.mem_singleton.mp hpiece] using hc
      | cons next pieces =>
          rw [List.intercalate_cons_cons, List.mem_append]
          rcases List.mem_cons.mp hpiece with rfl | hpiece
          · exact .inl (List.mem_append_left separator hc)
          · exact .inr (ih hpiece)

theorem mem_of_mem_fields {s field : List Char} {c : Char} (hfield : field ∈ fields s)
    (hc : c ∈ field) : c ∈ s := by
  obtain ⟨piece, hpiece, rfl⟩ := List.mem_map.mp hfield
  rw [← @List.intercalate_splitOn _ s _ _ ',']
  exact mem_intercalate hpiece (mem_of_mem_trim hc)

theorem listedPositions_eq (s : List Char) :
    listedPositions s =
      (((fields s).filterMap (readNumeral wordBound)).filter (1 ≤ ·)).map (· - 1) := by
  rw [listedPositions, fields]
  induction s.splitOn ',' with
  | nil => rfl
  | cons piece pieces ih =>
      simp only [List.filterMap_cons, List.map_cons, ih]
      cases hvalue : readNumeral wordBound (trim piece) with
      | none => rfl
      | some value => cases value <;> simp

theorem listedLetters_eq (s : List Char) :
    listedLetters s = ((fields s).filter (·.length = 1)).flatten.filter isCapital := by
  rw [listedLetters, fields]
  induction s.splitOn ',' with
  | nil => rfl
  | cons piece pieces ih =>
      simp only [List.filterMap_cons, List.map_cons, ih]
      rcases trim piece with _ | ⟨c, _ | ⟨next, rest⟩⟩
      · simp
      · by_cases hc : isCapital c <;> simp [hc]
      · simp

/-! ## Reading the forms -/

theorem exactForm?_of_isExact {line digits : List Char} {letter : Char}
    (h : IsExact line letter digits) :
    exactForm? line = some (.exact letter (readNumeral wordBound digits)) := by
  obtain ⟨hletter, hne, hdigits, first, second, hfirst, hsecond, rfl⟩ := h
  have hread : digits? digits = some digits := digits?_eq_some_iff.mpr ⟨rfl, hne, hdigits⟩
  have hword (s : List Char) : trimStart (['A', 'T'] ++ s) = ['A', 'T'] ++ s :=
    trimStart_word (by decide) ['T'] s
  simp only [exactForm?, letter?_cons hletter hfirst, hword, Option.bind_eq_bind,
    Option.bind_some, after?_append, afterBlanks?_append hsecond, trimStart_of_digits hdigits,
    hread]

theorem exists_isExact {line : List Char} {clue : ClueLine} (h : exactForm? line = some clue) :
    ∃ letter digits, IsExact line letter digits ∧
      clue = .exact letter (readNumeral wordBound digits) := by
  simp only [exactForm?, Option.bind_eq_bind, Option.bind_eq_some_iff] at h
  obtain ⟨⟨letter, rest⟩, hletter, rest', hword, rest'', hafter, digits, hdigits, hclue⟩ := h
  obtain ⟨hcapital, first, hfirst, rfl⟩ := exists_of_letter? hletter
  obtain rfl := eq_append_of_after? hword
  obtain ⟨-, second, hsecond, rfl⟩ := exists_of_afterBlanks? hafter
  obtain ⟨rfl, hne, hall⟩ := digits?_eq_some_iff.mp hdigits
  exact ⟨letter, _, ⟨hcapital, hne, hall, first, second, hfirst, hsecond, rfl⟩,
    (Option.some.inj hclue).symm⟩

theorem absentForm?_of_isAbsent {line rest : List Char} (h : IsAbsent line rest) :
    absentForm? line = some (.absent (listedLetters rest)) ∨
      absentForm? line = none ∧ listedLetters rest = [] := by
  obtain ⟨blanks, hblanks, rfl⟩ := h
  have hletters : listedLetters (trimStart rest) = listedLetters rest := by
    rw [listedLetters_eq, fields_trimStart, ← listedLetters_eq]
  simp only [absentForm?, Option.bind_eq_bind, Option.bind_some, after?_append,
    afterBlanks?_append hblanks]
  split
  · next hempty =>
      rw [← hletters, hempty]
      exact .inr ⟨rfl, rfl⟩
  · rw [← hletters]
    exact .inl rfl

theorem exists_isAbsent {line : List Char} {clue : ClueLine} (h : absentForm? line = some clue) :
    ∃ rest, IsAbsent line rest ∧ clue = .absent (listedLetters rest) := by
  simp only [absentForm?, Option.bind_eq_bind, Option.bind_eq_some_iff] at h
  obtain ⟨rest, hword, rest', hafter, hclue⟩ := h
  obtain rfl := eq_append_of_after? hword
  obtain ⟨-, blanks, hblanks, rfl⟩ := exists_of_afterBlanks? hafter
  split at hclue
  · cases hclue
  · exact ⟨rest', ⟨blanks, hblanks, rfl⟩, (Option.some.inj hclue).symm⟩

theorem afterComma {comma blanks : List Char} (hcomma : comma = [] ∨ comma = [','])
    (hblanks : ∀ c ∈ blanks, isBlank c = true) (s : List Char) :
    trimStart ((after? [','] (trimStart (comma ++ (blanks ++ (['N', 'O', 'T'] ++ s))))).getD
      (trimStart (comma ++ (blanks ++ (['N', 'O', 'T'] ++ s))))) = ['N', 'O', 'T'] ++ s := by
  have hnot : trimStart (['N', 'O', 'T'] ++ s) = ['N', 'O', 'T'] ++ s :=
    trimStart_word (by decide) ['O', 'T'] s
  rcases hcomma with rfl | rfl
  · have hno : after? [','] (['N', 'O', 'T'] ++ s) = none := rfl
    rw [List.nil_append, trimStart_append hblanks, hnot, hno, Option.getD_none, hnot]
  · have hstart (t : List Char) : trimStart ([','] ++ t) = [','] ++ t :=
      trimStart_word (by decide) [] t
    rw [hstart, after?_append, Option.getD_some, trimStart_append hblanks, hnot]

theorem exists_comma (s : List Char) :
    ∃ comma blanks, (comma = [] ∨ comma = [',']) ∧ (∀ c ∈ blanks, isBlank c = true) ∧
      s = comma ++ (blanks ++ trimStart ((after? [','] s).getD s)) := by
  cases hafter : after? [','] s with
  | none =>
      obtain ⟨blanks, hblanks, hs⟩ := exists_trimStart s
      exact ⟨[], blanks, .inl rfl, hblanks, hs⟩
  | some rest =>
      obtain ⟨blanks, hblanks, hrest⟩ := exists_trimStart rest
      refine ⟨[','], blanks, .inr rfl, hblanks, ?_⟩
      rw [Option.getD_some, ← hrest]
      exact eq_append_of_after? hafter

theorem excluded?_of_isExclusion {tail part : List Char} (h : IsExclusion tail part) :
    excluded? tail = some (listedPositions part) := by
  obtain ⟨hpart, first, comma, second, third, fourth, hfirst, hcomma, hsecond, hthird, hfourth,
    rfl⟩ := h
  have hat (s : List Char) : trimStart (['A', 'T'] ++ s) = ['A', 'T'] ++ s :=
    trimStart_word (by decide) ['T'] s
  have hlisted : (trimStart part).all isListed = true :=
    List.all_eq_true.mpr fun c hc => hpart c (List.dropWhile_subset isBlank hc)
  have hpositions : listedPositions (trimStart part) = listedPositions part := by
    rw [listedPositions_eq, fields_trimStart, ← listedPositions_eq]
  rw [excluded?, if_neg (by simp)]
  simp only [trimStart_append hfirst, afterComma hcomma hsecond, Option.bind_eq_bind,
    Option.bind_some, after?_append, afterBlanks?_append hthird, hat, afterBlanks?_append hfourth,
    hlisted, if_true, hpositions]

theorem exists_isExclusion {tail : List Char} {excluded : List Nat}
    (h : excluded? tail = some excluded) :
    ∃ part, (tail = [] ∧ part = [] ∨ IsExclusion tail part) ∧ excluded = listedPositions part := by
  rw [excluded?] at h
  split at h
  · next hempty =>
      cases h
      exact ⟨[], .inl ⟨hempty, rfl⟩, rfl⟩
  · simp only [Option.bind_eq_bind, Option.bind_eq_some_iff] at h
    obtain ⟨rest, hnot, rest', hread, rest'', hat, part, hread', hexcluded⟩ := h
    obtain ⟨first, hfirst, htail⟩ := exists_trimStart tail
    have hrest := eq_append_of_after? hnot
    obtain ⟨-, third, hthird, rfl⟩ := exists_of_afterBlanks? hread
    obtain rfl := eq_append_of_after? hat
    obtain ⟨-, fourth, hfourth, rfl⟩ := exists_of_afterBlanks? hread'
    obtain ⟨comma, second, hcomma, hsecond, hstart⟩ := exists_comma (trimStart tail)
    split at hexcluded
    · next hlisted =>
        refine ⟨part, .inr ⟨List.all_eq_true.mp hlisted, first, comma, second, third, fourth,
          hfirst, hcomma, hsecond, hthird, hfourth, ?_⟩, (Option.some.inj hexcluded).symm⟩
        rw [← hrest, ← hstart, ← htail]
    · cases hexcluded

theorem presentForm?_of_isPresent {line part : List Char} {letter : Char}
    (h : IsPresent line letter part) :
    presentForm? line = some (.present letter (listedPositions part)) := by
  obtain ⟨hletter, first, second, tail, hfirst, hsecond, htail, rfl⟩ := h
  have hexcluded : excluded? tail = some (listedPositions part) := by
    rcases htail with ⟨rfl, rfl⟩ | hexclusion
    · rfl
    · exact excluded?_of_isExclusion hexclusion
  have hin (s : List Char) : trimStart (['I', 'N'] ++ s) = ['I', 'N'] ++ s :=
    trimStart_word (by decide) ['N'] s
  have hword (s : List Char) : trimStart (['W', 'O', 'R', 'D'] ++ s) = ['W', 'O', 'R', 'D'] ++ s :=
    trimStart_word (by decide) ['O', 'R', 'D'] s
  simp only [presentForm?, letter?_cons hletter hfirst, hin, Option.bind_eq_bind,
    Option.bind_some, after?_append, afterBlanks?_append hsecond, hword, hexcluded]

theorem exists_isPresent {line : List Char} {clue : ClueLine} (h : presentForm? line = some clue) :
    ∃ letter part, IsPresent line letter part ∧ clue = .present letter (listedPositions part) := by
  simp only [presentForm?, Option.bind_eq_bind, Option.bind_eq_some_iff] at h
  obtain ⟨⟨letter, rest⟩, hletter, rest', hin, rest'', hafter, tail, hword, excluded, hexcluded,
    hclue⟩ := h
  obtain ⟨hcapital, first, hfirst, rfl⟩ := exists_of_letter? hletter
  obtain rfl := eq_append_of_after? hin
  obtain ⟨-, second, hsecond, rfl⟩ := exists_of_afterBlanks? hafter
  obtain rfl := eq_append_of_after? hword
  obtain ⟨part, htail, rfl⟩ := exists_isExclusion hexcluded
  exact ⟨letter, part, ⟨hcapital, first, second, tail, hfirst, hsecond, htail, rfl⟩,
    (Option.some.inj hclue).symm⟩

theorem lengthForm?_of_isLength {line digits : List Char} (h : IsLength line digits) :
    lengthForm? line = some (.length (readNumeral wordBound digits)) := by
  obtain ⟨hne, hdigits, first, second, hfirst, hsecond, rfl⟩ := h
  have hread : digits? digits = some digits := digits?_eq_some_iff.mpr ⟨rfl, hne, hdigits⟩
  have hcolon (s : List Char) : trimStart ([':'] ++ s) = [':'] ++ s :=
    trimStart_word (by decide) [] s
  simp only [lengthForm?, Option.bind_eq_bind, Option.bind_some, after?_append,
    trimStart_append hfirst, hcolon, trimStart_append hsecond, trimStart_of_digits hdigits, hread]

theorem exists_isLength {line : List Char} {clue : ClueLine} (h : lengthForm? line = some clue) :
    ∃ digits, IsLength line digits ∧ clue = .length (readNumeral wordBound digits) := by
  simp only [lengthForm?, Option.bind_eq_bind, Option.bind_eq_some_iff] at h
  obtain ⟨rest, hword, rest', hcolon, digits, hdigits, hclue⟩ := h
  obtain rfl := eq_append_of_after? hword
  obtain ⟨first, hfirst, hrest⟩ := exists_trimStart rest
  have hrest' := eq_append_of_after? hcolon
  obtain ⟨second, hsecond, hend⟩ := exists_trimStart rest'
  obtain ⟨hsame, hne, hall⟩ := digits?_eq_some_iff.mp hdigits
  refine ⟨digits, ⟨hne, hall, first, second, hfirst, hsecond, ?_⟩, (Option.some.inj hclue).symm⟩
  rw [← hsame, ← hend, ← hrest', ← hrest]

/-! ## Reading a line -/

/-- The character behind the first one and the blanks that follow it. -/
def mark? (line : List Char) : Option Char :=
  (trimStart line.tail).head?

section Mark

variable {line : List Char} {clue : ClueLine}

theorem IsExact.mark?_eq {letter : Char} {digits : List Char} (h : IsExact line letter digits) :
    mark? line = some 'A' := by
  obtain ⟨-, -, -, first, second, hfirst, -, rfl⟩ := h
  rw [mark?, List.tail_cons, trimStart_append hfirst.2]
  rfl

theorem IsAbsent.mark?_eq {rest : List Char} (h : IsAbsent line rest) : mark? line = some 'O' := by
  obtain ⟨blanks, -, rfl⟩ := h
  rfl

theorem IsPresent.mark?_eq {letter : Char} {part : List Char} (h : IsPresent line letter part) :
    mark? line = some 'I' := by
  obtain ⟨-, first, second, tail, hfirst, -, -, rfl⟩ := h
  rw [mark?, List.tail_cons, trimStart_append hfirst.2]
  rfl

theorem IsLength.mark?_eq {digits : List Char} (h : IsLength line digits) :
    mark? line = some 'E' := by
  obtain ⟨-, -, first, second, -, -, rfl⟩ := h
  rfl

end Mark

inductive Form where
  | exact
  | absent
  | present
  | length
  deriving DecidableEq, Repr

namespace Form

def all : List Form :=
  [.exact, .absent, .present, .length]

/-- A line matches a form if it consists of the form's parts; behind NO there is a rest. -/
def Matches (line : List Char) : Form → Prop
  | .exact => ∃ letter digits, IsExact line letter digits
  | .absent => ∃ rest, IsAbsent line rest ∧ rest ≠ []
  | .present => ∃ letter part, IsPresent line letter part
  | .length => ∃ digits, IsLength line digits

def read? (line : List Char) : Form → Option ClueLine
  | .exact => exactForm? line
  | .absent => absentForm? line
  | .present => presentForm? line
  | .length => lengthForm? line

def mark : Form → Char
  | .exact => 'A'
  | .absent => 'O'
  | .present => 'I'
  | .length => 'E'

theorem mark_inj {form other : Form} : form.mark = other.mark ↔ form = other := by
  constructor
  · cases form <;> cases other <;> simp [mark]
  · exact congrArg mark

variable {line : List Char} {form other : Form} {clue : ClueLine}

theorem Matches.mark?_eq (h : form.Matches line) : mark? line = some form.mark := by
  cases form with
  | exact =>
      obtain ⟨letter, digits, hline⟩ := h
      exact hline.mark?_eq
  | absent =>
      obtain ⟨rest, hline, -⟩ := h
      exact hline.mark?_eq
  | present =>
      obtain ⟨letter, part, hline⟩ := h
      exact hline.mark?_eq
  | length =>
      obtain ⟨digits, hline⟩ := h
      exact hline.mark?_eq

theorem Matches.unique (h : form.Matches line) (hother : other.Matches line) : form = other :=
  mark_inj.mp (Option.some.inj (h.mark?_eq.symm.trans hother.mark?_eq))

theorem mark?_of_read? (h : form.read? line = some clue) : mark? line = some form.mark := by
  cases form with
  | exact =>
      obtain ⟨letter, digits, hline, -⟩ := exists_isExact h
      exact hline.mark?_eq
  | absent =>
      obtain ⟨rest, hline, -⟩ := exists_isAbsent h
      exact hline.mark?_eq
  | present =>
      obtain ⟨letter, part, hline, -⟩ := exists_isPresent h
      exact hline.mark?_eq
  | length =>
      obtain ⟨digits, hline, -⟩ := exists_isLength h
      exact hline.mark?_eq

theorem eq_of_read? {clue' : ClueLine} (h : form.read? line = some clue)
    (hother : other.read? line = some clue') : form = other :=
  mark_inj.mp (Option.some.inj ((mark?_of_read? h).symm.trans (mark?_of_read? hother)))

theorem read?_eq_none (h : mark? line = some form.mark) (hne : other ≠ form) :
    other.read? line = none :=
  Option.eq_none_iff_forall_ne_some.mpr fun _ hclue =>
    hne (mark_inj.mp (Option.some.inj ((mark?_of_read? hclue).symm.trans h)))

end Form

section Mark

variable {line : List Char} {clue : ClueLine}

theorem read?_eq_or (line : List Char) :
    read? line =
      (exactForm? line).or
        ((absentForm? line).or ((presentForm? line).or (lengthForm? line))) := by
  simp only [read?, Option.orElse_eq_orElse, Option.orElse_eq_or]

theorem read?_eq_of_mark? (form : Form) (h : mark? line = some form.mark) :
    read? line = form.read? line := by
  have hnone (other : Form) (hne : other ≠ form) : other.read? line = none :=
    Form.read?_eq_none h hne
  have hforms : read? line = ((Form.read? line .exact).or ((Form.read? line .absent).or
      ((Form.read? line .present).or (Form.read? line .length)))) :=
    read?_eq_or line
  rw [hforms]
  cases form with
  | exact => rw [hnone .absent nofun, hnone .present nofun, hnone .length nofun]; simp
  | absent => rw [hnone .exact nofun, hnone .present nofun, hnone .length nofun]; simp
  | present => rw [hnone .exact nofun, hnone .absent nofun, hnone .length nofun]; simp
  | length => rw [hnone .exact nofun, hnone .absent nofun, hnone .present nofun]; simp

theorem read?_of_isExact {letter : Char} {digits : List Char} (h : IsExact line letter digits) :
    read? line = some (.exact letter (readNumeral wordBound digits)) :=
  (read?_eq_of_mark? .exact h.mark?_eq).trans (exactForm?_of_isExact h)

theorem read?_of_isAbsent {rest : List Char} (h : IsAbsent line rest) :
    read? line = some (.absent (listedLetters rest)) ∨
      read? line = none ∧ listedLetters rest = [] := by
  rw [read?_eq_of_mark? .absent h.mark?_eq]
  exact absentForm?_of_isAbsent h

theorem read?_of_isPresent {letter : Char} {part : List Char} (h : IsPresent line letter part) :
    read? line = some (.present letter (listedPositions part)) :=
  (read?_eq_of_mark? .present h.mark?_eq).trans (presentForm?_of_isPresent h)

theorem read?_of_isLength {digits : List Char} (h : IsLength line digits) :
    read? line = some (.length (readNumeral wordBound digits)) :=
  (read?_eq_of_mark? .length h.mark?_eq).trans (lengthForm?_of_isLength h)

theorem read?_cases (h : read? line = some clue) :
    (∃ letter digits, IsExact line letter digits ∧
      clue = .exact letter (readNumeral wordBound digits)) ∨
    (∃ rest, IsAbsent line rest ∧ clue = .absent (listedLetters rest)) ∨
    (∃ letter part, IsPresent line letter part ∧ clue = .present letter (listedPositions part)) ∨
    ∃ digits, IsLength line digits ∧ clue = .length (readNumeral wordBound digits) := by
  simp only [read?_eq_or, Option.or_eq_some_iff] at h
  rcases h with h | ⟨-, h | ⟨-, h | ⟨-, h⟩⟩⟩
  · exact .inl (exists_isExact h)
  · exact .inr (.inl (exists_isAbsent h))
  · exact .inr (.inr (.inl (exists_isPresent h)))
  · exact .inr (.inr (.inr (exists_isLength h)))

theorem read?_of_head (h : ∀ c ∈ line.head?, isCapital c = false) : read? line = none := by
  rw [Option.eq_none_iff_forall_ne_some]
  intro clue hclue
  -- Every form begins with a capital.
  have hcapital : ∃ c ∈ line.head?, isCapital c = true := by
    obtain ⟨letter, digits, hline, -⟩ | ⟨rest, ⟨blanks, -, rfl⟩, -⟩ | ⟨letter, part, hline, -⟩ |
      ⟨digits, hline, -⟩ := read?_cases hclue
    · obtain ⟨hletter, -, -, first, second, -, -, rfl⟩ := hline
      exact ⟨letter, rfl, hletter⟩
    · exact ⟨'N', rfl, by decide⟩
    · obtain ⟨hletter, first, second, tail, -, -, -, rfl⟩ := hline
      exact ⟨letter, rfl, hletter⟩
    · obtain ⟨-, -, first, second, -, -, rfl⟩ := hline
      exact ⟨'L', rfl, by decide⟩
  obtain ⟨c, hc, hletter⟩ := hcapital
  rw [h c hc] at hletter
  cases hletter

end Mark

/-! ## Lines that have a form -/

def HasForm (line : List Char) : Prop :=
  (∃ letter digits, IsExact line letter digits) ∨ (∃ rest, IsAbsent line rest ∧ rest ≠ []) ∨
    (∃ letter part, IsPresent line letter part) ∨ ∃ digits, IsLength line digits

section HasForm

variable {line : List Char}

theorem IsAbsent.trimStart_ne_nil {rest : List Char} (h : IsAbsent line rest)
    (htrimmed : IsTrimmed line) : trimStart rest ≠ [] := by
  obtain ⟨blanks, ⟨hne, hblanks⟩, rfl⟩ := h
  intro hnone
  have hrest : ∀ c ∈ rest, isBlank c = true := List.dropWhile_eq_nil_iff.mp hnone
  -- The line would end in a blank.
  have hlast : (['N', 'O'] ++ (blanks ++ rest)).getLast? = (blanks ++ rest).getLast? :=
    List.getLast?_append_of_ne_nil _ (by simp [hne])
  obtain ⟨c, hc⟩ : ∃ c, (blanks ++ rest).getLast? = some c :=
    Option.ne_none_iff_exists'.mp (by simp [hne])
  have hblank : isBlank c = true := by
    rcases List.mem_append.mp (List.mem_of_getLast? hc) with hmem | hmem
    · exact hblanks c hmem
    · exact hrest c hmem
  rw [htrimmed.2 c (hlast.trans hc)] at hblank
  cases hblank

theorem isSome_absentForm? {rest : List Char} (h : IsAbsent line rest)
    (hrest : trimStart rest ≠ []) : (absentForm? line).isSome = true := by
  obtain ⟨blanks, hblanks, rfl⟩ := h
  simp only [absentForm?, Option.bind_eq_bind, Option.bind_some, after?_append,
    afterBlanks?_append hblanks, if_neg hrest]
  rfl

theorem Form.isSome_read?_iff (htrimmed : IsTrimmed line) {form : Form} :
    (form.read? line).isSome = true ↔ form.Matches line := by
  constructor
  · intro h
    obtain ⟨clue, hclue⟩ := Option.isSome_iff_exists.mp h
    cases form with
    | exact =>
        obtain ⟨letter, digits, hline, -⟩ := exists_isExact hclue
        exact ⟨letter, digits, hline⟩
    | absent =>
        obtain ⟨rest, hline, -⟩ := exists_isAbsent hclue
        refine ⟨rest, hline, ?_⟩
        rintro rfl
        exact hline.trimStart_ne_nil htrimmed rfl
    | present =>
        obtain ⟨letter, part, hline, -⟩ := exists_isPresent hclue
        exact ⟨letter, part, hline⟩
    | length =>
        obtain ⟨digits, hline, -⟩ := exists_isLength hclue
        exact ⟨digits, hline⟩
  · intro h
    cases form with
    | exact =>
        obtain ⟨letter, digits, hline⟩ := h
        exact Option.isSome_iff_exists.mpr ⟨_, exactForm?_of_isExact hline⟩
    | absent =>
        obtain ⟨rest, hline, -⟩ := h
        exact isSome_absentForm? hline (hline.trimStart_ne_nil htrimmed)
    | present =>
        obtain ⟨letter, part, hline⟩ := h
        exact Option.isSome_iff_exists.mpr ⟨_, presentForm?_of_isPresent hline⟩
    | length =>
        obtain ⟨digits, hline⟩ := h
        exact Option.isSome_iff_exists.mpr ⟨_, lengthForm?_of_isLength hline⟩

theorem isSome_read?_iff (htrimmed : IsTrimmed line) :
    (read? line).isSome = true ↔ HasForm line := by
  have hforms := fun form : Form => form.isSome_read?_iff htrimmed
  rw [read?_eq_or, Option.isSome_or, Option.isSome_or, Option.isSome_or]
  simp only [Bool.or_eq_true]
  exact or_congr (hforms .exact) (or_congr (hforms .absent)
    (or_congr (hforms .present) (hforms .length)))

end HasForm

end ClueLine

end WordHunt
