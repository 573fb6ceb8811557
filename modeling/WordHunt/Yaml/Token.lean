import WordHunt.Yaml.Block
import WordHunt.Yaml.Cursor
import WordHunt.Yaml.Scalar
import WordHunt.Yaml.Tag

/-!
The tokens of a YAML text.  Indentation opens and closes blocks, which have tokens of their own.
What stands in front of a colon on its line is a key; since only the colon shows that, the token
for the key, and the one for a block that begins with it, are put in front of what was read.
-/

namespace WordHunt.Yaml

inductive Token where
  | directive (directive : Directive)
  | documentStart
  | documentEnd
  | listStart
  | tableStart
  | blockEnd
  | openBracket
  | closeBracket
  | openBrace
  | closeBrace
  | comma
  | item
  | key
  | value
  | anchor (name : String)
  | reference (name : String)
  | tag (tag : Tag)
  | scalar (plain : Bool) (content : String)
  deriving DecidableEq, Repr

/-- A step of indentation. -/
structure Level where
  /-- The columns by which everything outside of it is indented. -/
  outer : Nat
  /-- Whether it is a block, or just what belongs to an entry of one. -/
  block : Bool
  deriving DecidableEq, Repr

/-- What was read and is a key if a colon follows it. -/
structure Candidate where
  before : Nat
  place : Place
  /-- Whether it stands where only a key can stand. -/
  required : Bool
  deriving DecidableEq, Repr

structure Bracket where
  list : Bool
  outer : Option Candidate
  deriving DecidableEq, Repr

structure Scanner where
  cursor : Cursor
  tokens : List Token := []
  /-- The columns by which what comes next is indented at least. -/
  depth : Nat := 0
  levels : List Level := []
  keyAllowed : Bool := true
  candidate : Option Candidate := none
  brackets : List Bracket := []
  /-- The index of the place where a colon needs no blank behind it. -/
  adjacent : Nat := 0
  propertyColumn : Nat := 0

def maxBrackets : Nat := 255

def maxKeySize : Nat := 1024

namespace Scanner

def inFlow (scanner : Scanner) : Bool :=
  !scanner.brackets.isEmpty

def push (scanner : Scanner) (token : Token) : Scanner :=
  { scanner with tokens := token :: scanner.tokens }

def insert (scanner : Scanner) (before : Nat) (token : Token) : Scanner :=
  { scanner with
    tokens := scanner.tokens.insertIdx (scanner.tokens.length - before) token }

def propose (scanner : Scanner) : Scanner :=
  if scanner.keyAllowed then
    let place := scanner.cursor.place
    let required :=
      !scanner.inFlow && scanner.depth = place.column + 1 && scanner.levels.head?.any Level.block
    { scanner with candidate := some ⟨scanner.tokens.length, place, required⟩ }
  else scanner

/-- Gives the candidate up, unless it has to be a key. -/
def dismiss? (scanner : Scanner) : Option Scanner :=
  if scanner.candidate.any Candidate.required then none
  else some { scanner with candidate := none }

/-- Whether a candidate has become too old to be a key at a place. -/
def isStale (place : Place) (candidate : Candidate) : Bool :=
  candidate.place.line < place.line || candidate.place.index + maxKeySize < place.index

/-- Gives up a candidate that is too old; inside of brackets none is. -/
def age? (scanner : Scanner) : Option Scanner :=
  if !scanner.inFlow && scanner.candidate.any (isStale scanner.cursor.place) then
    scanner.dismiss?
  else some scanner

def closeLevels (limit depth : Nat) (tokens : List Token) :
    List Level → Nat × List Token × List Level
  | [] => (depth, tokens, [])
  | level :: levels =>
      if limit < depth then
        closeLevels limit level.outer (if level.block then .blockEnd :: tokens else tokens) levels
      else (depth, tokens, level :: levels)

/-- Closes the blocks beyond a depth; brackets keep them open. -/
def closeTo (scanner : Scanner) (limit : Nat) : Scanner :=
  if scanner.inFlow then scanner
  else
    let (depth, tokens, levels) := closeLevels limit scanner.depth scanner.tokens scanner.levels
    { scanner with depth, tokens, levels }

def leaveEntry (scanner : Scanner) : Scanner :=
  match scanner.levels with
  | level :: levels =>
      if level.block then scanner else { scanner with depth := level.outer, levels }
  | [] => scanner

def enterEntry (scanner : Scanner) : Scanner :=
  if !scanner.inFlow && scanner.levels.head?.any Level.block then
    { scanner with
      depth := scanner.depth + 1
      levels := ⟨scanner.depth, false⟩ :: scanner.levels }
  else scanner

/-- Opens a block at a column behind the first tokens, if it is not open yet. -/
def openBlock (scanner : Scanner) (column before : Nat) (token : Token) : Scanner :=
  if scanner.inFlow then scanner
  else
    let scanner := if scanner.depth ≤ column + 1 then scanner.leaveEntry else scanner
    if scanner.depth ≤ column then
      let scanner := scanner.insert before token
      { scanner with
        depth := column + 1
        levels := ⟨scanner.depth, true⟩ :: scanner.levels }
    else scanner

def drop (scanner : Scanner) (size : Nat) : Scanner :=
  { scanner with cursor := scanner.cursor.drop size }

def restOfLine? (scanner : Scanner) : Option Scanner :=
  scanner.cursor.restOfLine?.map fun cursor => { scanner with cursor }

def allowKey (scanner : Scanner) (allowed : Bool) : Scanner :=
  { scanner with keyAllowed := allowed }

def gap? (scanner : Scanner) : Option Scanner := do
  let (cursor, broken) ← scanner.cursor.gap? scanner.depth
  let keyAllowed := scanner.keyAllowed || broken && !scanner.inFlow
  some { scanner with cursor, keyAllowed }

def leaveDocument? (scanner : Scanner) : Option Scanner :=
  ((scanner.closeTo 0).allowKey false).dismiss?

def directive? (scanner : Scanner) : Option Scanner := do
  let scanner ← scanner.leaveDocument?
  let (directive, size) ← directive (scanner.cursor.rest.drop 1)
  let scanner ← (scanner.drop (size + 1)).restOfLine?
  if atLineEnd scanner.cursor.rest then
    some ({ scanner with cursor := scanner.cursor.dropBreak }.push (.directive directive))
  else none

def documentStart? (scanner : Scanner) : Option Scanner := do
  let scanner ← scanner.leaveDocument?
  some ((scanner.drop 3).push .documentStart)

def documentEnd? (scanner : Scanner) : Option Scanner := do
  let scanner ← scanner.leaveDocument?
  let scanner ← ((scanner.drop 3).push .documentEnd).restOfLine?
  if atLineEnd scanner.cursor.rest then some scanner else none

def openBracket? (scanner : Scanner) (list : Bool) : Option Scanner :=
  let scanner := scanner.propose.enterEntry
  if scanner.brackets.length < maxBrackets then
    let scanner :=
      { scanner with
        brackets := ⟨list, scanner.candidate⟩ :: scanner.brackets
        candidate := none
        keyAllowed := true }
    ((scanner.drop 1).push (if list then .openBracket else .openBrace)).restOfLine?
  else none

/-- A closing bracket; behind it, inside of others, a colon needs no blank. -/
def closeBracket? (scanner : Scanner) (list : Bool) : Option Scanner :=
  match scanner.brackets with
  | [] => none
  | bracket :: brackets => do
      let scanner :=
        { scanner with brackets, candidate := bracket.outer, keyAllowed := false }
      let token := if list then Token.closeBracket else .closeBrace
      let scanner ← ((scanner.drop 1).push token).restOfLine?
      let place := scanner.cursor.place
      some (if scanner.inFlow then { scanner with adjacent := place.index } else scanner)

def comma? (scanner : Scanner) : Option Scanner := do
  let scanner ← scanner.dismiss?
  ((scanner.drop 1).allowKey true |>.push .comma).restOfLine?

def followsProperty (scanner : Scanner) : Bool :=
  match scanner.tokens.head? with
  | some (.anchor _) | some (.tag _) => scanner.propertyColumn = 0
  | _ => false

/-- A dash in front of an item, which is a block of its own if it is indented enough. -/
def item? (scanner : Scanner) : Option Scanner :=
  let column := scanner.cursor.place.column
  if scanner.inFlow || !scanner.keyAllowed then none
  else if column = 0 && 0 < scanner.depth && scanner.followsProperty then none
  else do
    let scanner := (scanner.drop 1).openBlock column scanner.tokens.length .listStart
    let blanks := scanner.cursor.rest.takeWhile isSpace
    let scanner ← scanner.restOfLine?
    let rest := scanner.cursor.rest
    if blanks.contains '\t' && rest.head? = some '-' && atBlank (rest.drop 1) then none
    else
      let broken := rest.head?.any fun c => isBreak c || isFlowMark c
      let scanner := if broken then scanner.enterEntry else scanner
      let scanner ← scanner.dismiss?
      some ((scanner.allowKey true).push .item)

def keyGapOnto (comment : Bool) (place : Place) : List Char → Cursor
  | [] => ⟨place, []⟩
  | c :: s =>
      if isBreak c then keyGapOnto false (place.after c s) s
      else if comment || c = '#' then keyGapOnto true (place.after c s) s
      else if c = ' ' then keyGapOnto false (place.after c s) s
      else ⟨place, c :: s⟩

def keyGap? (cursor : Cursor) : Option Cursor :=
  let behind := keyGapOnto false cursor.place cursor.rest
  if behind.place = cursor.place || behind.rest.head? = some '\t' then none else some behind

def key? (scanner : Scanner) : Option Scanner :=
  if !scanner.inFlow && !scanner.keyAllowed then none
  else do
    let column := scanner.cursor.place.column
    let scanner := scanner.openBlock column scanner.tokens.length .tableStart
    let scanner ← scanner.dismiss?
    let scanner := scanner.allowKey (!scanner.inFlow)
    let cursor ← keyGap? (scanner.cursor.drop 1)
    some ({ scanner with cursor }.push .key)

def afterColon? (cursor : Cursor) : Option Cursor :=
  let cursor := cursor.drop 1
  if cursor.rest.head? = some '\t' then do
    let blanks := cursor.rest.takeWhile isSpace
    let behind ← cursor.restOfLine?
    if !blanks.contains ' ' && behind.rest.head?.any isNameChar then none else some behind
  else some cursor

/-- A colon, which makes the candidate a key or else stands behind an explicit key. -/
def value? (scanner : Scanner) : Option Scanner := do
  let place := scanner.cursor.place
  let cursor ← afterColon? scanner.cursor
  match scanner.candidate with
  | some candidate =>
      let inList := scanner.brackets.head?.any Bracket.list
      if inList && candidate.place.line < place.line then none
      else
        let scanner := scanner.insert candidate.before .key
        let scanner := scanner.openBlock candidate.place.column candidate.before .tableStart
        let scanner := { scanner.enterEntry with cursor, candidate := none }
        some ((scanner.allowKey false).push .value)
  | none =>
      if !scanner.inFlow && !scanner.keyAllowed then none
      else
        let scanner := scanner.openBlock place.column scanner.tokens.length .tableStart
        let scanner := { scanner.enterEntry with cursor }
        some ((scanner.allowKey (!scanner.inFlow)).push .value)

def isAnchorChar (c : Char) : Bool :=
  !isSpace c && !isBreak c && !isFlowMark c && c ≠ '\uFEFF'

def anchor? (scanner : Scanner) (token : String → Token) : Option Scanner :=
  let name := (scanner.cursor.rest.drop 1).takeWhile isAnchorChar
  if name = [] then none
  else
    let column := scanner.cursor.place.column
    let scanner := (scanner.propose.allowKey false).drop (name.length + 1)
    some ({ scanner with propertyColumn := column }.push (token (String.ofList name)))

def tag? (scanner : Scanner) : Option Scanner := do
  let (tag, size) ← tag scanner.cursor.rest
  let column := scanner.cursor.place.column
  let scanner := (scanner.propose.allowKey false).drop size
  let rest := scanner.cursor.rest
  if atBlank rest || scanner.inFlow && atFlowMark rest then
    some ({ scanner with propertyColumn := column }.push (.tag tag))
  else none

def block? (scanner : Scanner) (literal : Bool) : Option Scanner := do
  let scanner := (scanner.propose.allowKey true).leaveEntry
  let (content, cursor) ← Yaml.block? literal scanner.depth scanner.cursor
  some ({ scanner with cursor }.push (.scalar false content))

def quoted? (scanner : Scanner) (quote : Char) : Option Scanner := do
  let scanner := scanner.propose.allowKey false
  let (content, cursor) ← Yaml.quoted? quote scanner.inFlow scanner.depth scanner.cursor
  let scanner ← { scanner with cursor }.gap?
  some ({ scanner with adjacent := scanner.cursor.place.index }.push (.scalar false content))

def plain? (scanner : Scanner) : Option Scanner := do
  let scanner := scanner.propose.leaveEntry
  let (content, cursor) ← Yaml.plain? scanner.inFlow scanner.depth scanner.cursor
  some (({ scanner with cursor }.allowKey cursor.place.leading).push (.scalar true content))

def isValueMark (scanner : Scanner) (s : List Char) : Bool :=
  atBlank s ||
    scanner.inFlow && (atFlowMark s || scanner.cursor.place.index = scanner.adjacent)

def tokenAt? (scanner : Scanner) (c : Char) (s : List Char) : Option Scanner :=
  match c with
  | '[' => scanner.openBracket? true
  | '{' => scanner.openBracket? false
  | ']' => scanner.closeBracket? true
  | '}' => scanner.closeBracket? false
  | ',' => scanner.comma?
  | '-' => if atBlank s then scanner.item? else scanner.plain?
  | '?' => if atBlank s then scanner.key? else scanner.plain?
  | ':' => if scanner.isValueMark s then scanner.value? else scanner.plain?
  | '*' => scanner.anchor? .reference
  | '&' => scanner.anchor? .anchor
  | '!' => scanner.tag?
  | '|' => if scanner.inFlow then scanner.plain? else scanner.block? true
  | '>' => if scanner.inFlow then scanner.plain? else scanner.block? false
  | '\'' => scanner.quoted? '\''
  | '"' => scanner.quoted? '"'
  | '%' | '@' | '\x60' => none
  | _ => scanner.plain?

def token? (scanner : Scanner) (c : Char) (s : List Char) : Option Scanner :=
  let column := scanner.cursor.place.column
  if column = 0 && c = '%' then scanner.directive?
  else if column = 0 && isDocumentMark '-' (c :: s) then scanner.documentStart?
  else if column = 0 && isDocumentMark '.' (c :: s) then scanner.documentEnd?
  else if column + 1 < scanner.depth then none
  else scanner.tokenAt? c s

def tokens? : (fuel : Nat) → Scanner → Option (List Token)
  | 0, _ => none
  | fuel + 1, scanner => do
      let scanner ← scanner.gap?
      let scanner ← scanner.age?
      let scanner := scanner.closeTo (scanner.cursor.place.column + 1)
      match scanner.cursor.rest with
      | [] => do
          let scanner ← scanner.dismiss?
          some (scanner.closeTo 0).tokens.reverse
      | c :: s => do
          let scanner ← scanner.token? c s
          tokens? fuel scanner

end Scanner

def tokens? (s : List Char) : Option (List Token) :=
  let s := s.takeWhile (· ≠ '\x00')
  Scanner.tokens? (s.length + 1) { cursor := { rest := s } }

end WordHunt.Yaml
