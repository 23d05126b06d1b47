/-
# DomainFilter.Yaml.Token — the tokens of a YAML text

A text is cut into tokens in one pass. Three things have to be known on the way.

* *Indentation.* Outside flow collections, a key or an entry further to the right than the
  collection it stands in opens a collection, and a token further to the left closes the ones it
  has left.
* *Keys.* That something is a key shows only at the colon after it. Where a key may start, the place
  in the tokens is remembered; a colon on the same line, at most 1024 bytes later, puts the key
  token back there. Where a line starts at the indentation of its mapping there has to be a key.
* *Flow collections.* Inside brackets and braces, indentation and tabs do not matter.
-/
import DomainFilter.Yaml.Scalar
import DomainFilter.Yaml.Tag

namespace DomainFilter.Yaml

/-- A token. -/
inductive Token where
  /-- A line that names the version of YAML. -/
  | version (major minor : Nat)
  /-- A line that says what the handle of tags stands for. -/
  | handle (name start : Tag)
  | documentStart
  | documentEnd
  | blockSequenceStart
  | blockMappingStart
  | blockEnd
  | flowSequenceStart
  | flowSequenceEnd
  | flowMappingStart
  | flowMappingEnd
  | blockEntry
  | flowEntry
  | key
  | value
  | alias (name : List Char)
  | anchor (name : List Char)
  | tag (handle suffix : Tag)
  | scalar (text : List Char) (plain : Bool)
  deriving DecidableEq

/-- A place where a key may have started. -/
structure KeyStart where
  /-- Whether there has to be a key. -/
  required : Bool
  /-- How many tokens come before it. -/
  tokens : Nat
  index : Nat
  line : Nat
  column : Nat

/-- The state of cutting. -/
structure Scanner where
  cur : Cursor
  tokens : Array Token
  /-- The columns of the open block collections, the innermost first. -/
  indents : List Nat
  /-- Where the key of the innermost collection may have started. -/
  keyStart : Option KeyStart
  /-- The same for the collections around each open flow collection, the innermost first. -/
  outerKeyStarts : List (Option KeyStart)
  /-- Whether a key may start here. -/
  keyAllowed : Bool

namespace Scanner

/-- The start of a text. -/
def start (s : List Char) : Scanner := ⟨.start s, #[], [], none, [], true⟩

/-- Whether a flow collection is open. -/
def inFlow (sc : Scanner) : Bool := !sc.outerKeyStarts.isEmpty

/-- One more token. -/
def push (token : Token) (sc : Scanner) : Scanner := { sc with tokens := sc.tokens.push token }

/-- So many characters further. -/
def skip (count : Nat) (sc : Scanner) : Scanner := { sc with cur := sc.cur.skip count }

/-- The same state with keys allowed or not. -/
def allowKey (allowed : Bool) (sc : Scanner) : Scanner := { sc with keyAllowed := allowed }

/-! ## §A Between tokens -/

/-- To the next token, past blanks, comments, line breaks and byte order marks that start lines. -/
def skipToToken : Nat → Scanner → Scanner
  | 0, sc => sc
  | fuel + 1, sc =>
    let tabs := sc.inFlow || !sc.keyAllowed
    let cur := sc.cur.skipOrderMark.skipWhile fun c => c == ' ' || (tabs && c == '\t')
    let cur := cur.skipComment
    if (cur.rest.take 1).any isBreak then
      let (_, cur) := cur.skipBreak
      skipToToken fuel { sc with cur, keyAllowed := sc.keyAllowed || !sc.inFlow }
    else { sc with cur }

/-- Whether a key may still end here. -/
def isFresh (cur : Cursor) (start : KeyStart) : Bool :=
  start.line == cur.line && cur.index ≤ start.index + 1024

/-- Forgets where a key may have started once the key can no longer end; one that is required is an
error. The key starts around flow collections are asked when their collections have ended. -/
def dropStale (sc : Scanner) : Option Scanner :=
  match sc.keyStart with
  | none => some sc
  | some start =>
    if isFresh sc.cur start then some sc
    else if start.required then none
    else some { sc with keyStart := none }

/-- Forgets where a key may have started; one that is required is an error. -/
def dropKeyStart (sc : Scanner) : Option Scanner :=
  match sc.keyStart with
  | none => some sc
  | some start => if start.required then none else some { sc with keyStart := none }

/-- Remembers that a key may start here. -/
def saveKeyStart (sc : Scanner) : Option Scanner :=
  if sc.keyAllowed then do
    let required := !sc.inFlow && sc.indents.head? == some sc.cur.column
    let sc ← sc.dropKeyStart
    some { sc with
      keyStart := some ⟨required, sc.tokens.size, sc.cur.index, sc.cur.line, sc.cur.column⟩ }
  else some sc

/-- Closes the block collections that lie to the right of a column; all of them without one. -/
def closeBlocks (column : Option Nat) : Nat → Scanner → Scanner
  | 0, sc => sc
  | fuel + 1, sc =>
    match sc.indents with
    | [] => sc
    | indent :: indents =>
      let left : Bool := match column with
        | some n => n < indent
        | none => true
      if left then closeBlocks column fuel ({ sc with indents }.push .blockEnd) else sc

/-- Closes the block collections that the next token has left. -/
def closeLeft (column : Option Nat) (sc : Scanner) : Scanner :=
  if sc.inFlow then sc else closeBlocks column sc.indents.length sc

/-- Opens a block collection at a column, at a place in the tokens, if it lies further right. -/
def openBlock (column place : Nat) (token : Token) (sc : Scanner) : Scanner :=
  if sc.inFlow then sc
  else
    let further : Bool := match sc.indents with
      | [] => true
      | indent :: _ => indent < column
    if further then
      { sc with
        indents := column :: sc.indents
        tokens := sc.tokens.insertIdxIfInBounds place token }
    else sc

/-! ## §B Tokens -/

/-- A mark that starts or ends a document: all blocks end before it. -/
def fetchDocumentMark (token : Token) (sc : Scanner) : Option Scanner := do
  let sc ← (sc.closeLeft none).dropKeyStart
  some (((sc.allowKey false).skip 3).push token)

/-- The number at the start of a text, of at most nine digits. -/
def versionNumber? (s : List Char) : Option (Nat × List Char) := do
  let (n, s) ← Digits.number? 1 9 s
  if (s.take 1).any Char.isDigit then none else some (n, s)

/-- The line about the document that starts at a percent sign, as a token, and the text after the
part of the line that makes it up. -/
def readDirective (s : List Char) : Option (Token × List Char) := do
  let name := (s.drop 1).takeWhile Tag.isNameChar
  let s := s.drop (name.length + 1)
  if !atGap s then none
  if name = "YAML".toList then
    let (major, s) ← versionNumber? (s.dropWhile isBlank)
    match s with
    | '.' :: s =>
      let (minor, s) ← versionNumber? s
      some (.version major minor, s)
    | _ => none
  else if name = "TAG".toList then
    let (handle, start, s) ← Tag.readDirective? s
    if atGap s then some (.handle handle start, s) else none
  else none

/-- A line about the document; at most a comment may follow on it. -/
def fetchDirective (sc : Scanner) : Option Scanner := do
  let sc ← (sc.closeLeft none).dropKeyStart
  let (token, rest) ← readDirective sc.cur.rest
  let cur := ((sc.cur.skip (sc.cur.rest.length - rest.length)).skipWhile isBlank).skipComment
  if !cur.atLineEnd then none
  let (_, cur) := cur.skipBreak
  some ({ sc with cur, keyAllowed := false }.push token)

/-- A bracket that opens a flow collection. -/
def fetchFlowStart (token : Token) (sc : Scanner) : Option Scanner := do
  let sc ← sc.saveKeyStart
  let sc := { sc with keyStart := none, outerKeyStarts := sc.keyStart :: sc.outerKeyStarts }
  some (((sc.allowKey true).skip 1).push token)

/-- A bracket that closes a flow collection. -/
def fetchFlowEnd (token : Token) (sc : Scanner) : Option Scanner := do
  let sc ← sc.dropKeyStart
  let sc := match sc.outerKeyStarts with
    | [] => sc
    | keyStart :: outerKeyStarts => { sc with keyStart, outerKeyStarts }
  some (((sc.allowKey false).skip 1).push token)

/-- A comma in a flow collection. -/
def fetchFlowEntry (sc : Scanner) : Option Scanner := do
  let sc ← sc.dropKeyStart
  some (((sc.allowKey true).skip 1).push .flowEntry)

/-- The hyphen before an entry. -/
def fetchBlockEntry (sc : Scanner) : Option Scanner := do
  if !sc.inFlow && !sc.keyAllowed then none
  let sc := sc.openBlock sc.cur.column sc.tokens.size .blockSequenceStart
  let sc ← sc.dropKeyStart
  some (((sc.allowKey true).skip 1).push .blockEntry)

/-- The question mark before a key. -/
def fetchKey (sc : Scanner) : Option Scanner := do
  if !sc.inFlow && !sc.keyAllowed then none
  let sc := sc.openBlock sc.cur.column sc.tokens.size .blockMappingStart
  let sc ← sc.dropKeyStart
  some (((sc.allowKey !sc.inFlow).skip 1).push .key)

/-- The colon before a value. What came before it on the line, if it may be one, is the key. -/
def fetchValue (sc : Scanner) : Option Scanner := do
  match sc.keyStart with
  | some start =>
    let sc := { sc with
      keyStart := none
      tokens := sc.tokens.insertIdxIfInBounds start.tokens .key }
    let sc := sc.openBlock start.column start.tokens .blockMappingStart
    some (((sc.allowKey false).skip 1).push .value)
  | none =>
    if !sc.inFlow && !sc.keyAllowed then none
    let sc := sc.openBlock sc.cur.column sc.tokens.size .blockMappingStart
    some (((sc.allowKey !sc.inFlow).skip 1).push .value)

/-- The name of an anchor or of an alias, after its mark. -/
def fetchAnchor (make : List Char → Token) (sc : Scanner) : Option Scanner := do
  let sc ← sc.saveKeyStart
  let name := (sc.cur.rest.drop 1).takeWhile Tag.isNameChar
  let sc := (sc.allowKey false).skip (name.length + 1)
  let ends := atGap sc.cur.rest
    || (sc.cur.rest.take 1).any fun c => "?:,]\x7d%@\x60".toList.contains c
  if name = [] || !ends then none
  some (sc.push (make name))

/-- A tag. -/
def fetchTag (sc : Scanner) : Option Scanner := do
  let sc ← sc.saveKeyStart
  let (handle, suffix, rest) ← Tag.read? sc.cur.rest
  let sc := (sc.allowKey false).skip (sc.cur.rest.length - rest.length)
  if !atGap sc.cur.rest && !(sc.inFlow && sc.cur.rest.head? == some ',') then none
  some (sc.push (.tag handle suffix))

/-- A block scalar, after its mark. -/
def fetchBlockScalar (folded : Bool) (sc : Scanner) : Option Scanner := do
  let sc ← sc.dropKeyStart
  let (text, cur) ← readBlock folded sc.indents.head? (sc.cur.skip 1)
  some ({ sc with cur, keyAllowed := true }.push (.scalar text false))

/-- A quoted scalar, after its quotation mark. -/
def fetchQuoted (double : Bool) (sc : Scanner) : Option Scanner := do
  let sc ← sc.saveKeyStart
  let (text, cur) ← readQuoted double sc.cur.fuel (sc.cur.skip 1) []
  some ({ sc with cur, keyAllowed := false }.push (.scalar text false))

/-- A plain scalar. -/
def fetchPlain (sc : Scanner) : Option Scanner := do
  let sc ← sc.saveKeyStart
  let indent := match sc.indents with
    | [] => 0
    | n :: _ => n + 1
  let (text, broken, cur) ← readPlain sc.inFlow indent sc.cur.fuel sc.cur [] Gap.none
  some ({ sc with cur, keyAllowed := broken }.push (.scalar text true))

/-- The characters that start no plain scalar, except hyphen, question mark and colon. -/
def isMark (c : Char) : Bool := ",[]\x7b\x7d#&*!|>'\"%@\x60".toList.contains c

/-- Whether a plain scalar starts with the character, before the given text. -/
def startsPlain (flow : Bool) (c : Char) (s : List Char) : Bool :=
  if c == '-' then !(s.take 1).any isBlank
  else if c == '?' || c == ':' then !flow && !atGap s
  else !isMark c && !isBlank c && !isBreak c

/-- The token that starts with a character, before the given text. -/
def fetch (c : Char) (s : List Char) (sc : Scanner) : Option Scanner :=
  let flow := sc.inFlow
  if sc.cur.column = 0 ∧ c = '%' then sc.fetchDirective
  else if sc.cur.atMark Cursor.startMark then sc.fetchDocumentMark .documentStart
  else if sc.cur.atMark Cursor.endMark then sc.fetchDocumentMark .documentEnd
  else if c = '[' then sc.fetchFlowStart .flowSequenceStart
  else if c = '\x7b' then sc.fetchFlowStart .flowMappingStart
  else if c = ']' then sc.fetchFlowEnd .flowSequenceEnd
  else if c = '\x7d' then sc.fetchFlowEnd .flowMappingEnd
  else if c = ',' then sc.fetchFlowEntry
  else if c = '-' ∧ atGap s then sc.fetchBlockEntry
  else if c = '?' ∧ (flow ∨ atGap s) then sc.fetchKey
  else if c = ':' ∧ (flow ∨ atGap s) then sc.fetchValue
  else if c = '*' then sc.fetchAnchor .alias
  else if c = '&' then sc.fetchAnchor .anchor
  else if c = '!' then sc.fetchTag
  else if c = '|' ∧ !flow then sc.fetchBlockScalar false
  else if c = '>' ∧ !flow then sc.fetchBlockScalar true
  else if c = '\'' then sc.fetchQuoted false
  else if c = '"' then sc.fetchQuoted true
  else if startsPlain flow c s then sc.fetchPlain
  else none

/-- All tokens of a text. Each round passes at least one character. -/
def run : Nat → Scanner → Option (List Token)
  | 0, _ => none
  | fuel + 1, sc => do
    let sc := sc.skipToToken sc.cur.fuel
    let sc ← sc.dropStale
    let sc := sc.closeLeft (some sc.cur.column)
    match sc.cur.rest with
    | [] =>
      let sc ← (sc.closeLeft none).dropKeyStart
      some sc.tokens.toList
    | c :: s =>
      let sc ← sc.fetch c s
      run fuel sc

end Scanner

/-- The tokens of a text. -/
def Token.ofText? (s : List Char) : Option (List Token) :=
  if s.all isAllowed then (Scanner.start s).run (s.length + 1) else none

end DomainFilter.Yaml
