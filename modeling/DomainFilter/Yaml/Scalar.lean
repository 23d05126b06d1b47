/-
# DomainFilter.Yaml.Scalar — the texts of scalars

The three ways in which a scalar is written, each read from where it starts.

* §A A gap is a run of blanks and line breaks inside a scalar. On one line it stands for itself;
  over several lines the first break counts as a space, and further ones as themselves.
* §B Plain scalars end at a colon or a comment after a gap, at the brackets and commas of a flow
  collection, and where a line is indented less than the scalar may be.
* §C Quoted scalars end at their quotation mark.
* §D Block scalars end where a line is indented less than their first line.
-/
import DomainFilter.Yaml.Cursor
import DomainFilter.Json.Written

namespace DomainFilter.Yaml

/-! ## §A Gaps -/

/-- A run of blanks and line breaks. -/
structure Gap where
  /-- Whether there is a line break. -/
  broken : Bool
  /-- The blanks before the first break. -/
  blanks : List Char
  /-- The text of the first break, if it counts. -/
  firstBreak : List Char
  /-- The texts of the breaks after it, the last one first. -/
  furtherBreaks : List Char

/-- No gap. -/
def Gap.none : Gap := ⟨false, [], [], []⟩

/-- A gap that starts with a break that does not count. -/
def Gap.uncounted : Gap := ⟨true, [], [], []⟩

/-- The text that a gap stands for. -/
def Gap.text (gap : Gap) : List Char :=
  if !gap.broken then gap.blanks
  else if gap.firstBreak = ['\n'] then
    if gap.furtherBreaks = [] then [' '] else gap.furtherBreaks.reverse
  else gap.firstBreak ++ gap.furtherBreaks.reverse

/-- The gap that goes on here, after the part given. A tab before the given column at the start of a
line is refused. -/
def readGap (tabColumn : Nat) : Nat → Cursor → Gap → Option (Gap × Cursor)
  | 0, cur, gap => some (gap, cur)
  | fuel + 1, cur, gap =>
    match cur.rest with
    | [] => some (gap, cur)
    | c :: _ =>
      if isBlank c then
        let run := cur.rest.takeWhile isBlank
        if !gap.broken then
          readGap tabColumn fuel (cur.skip run.length) { gap with blanks := gap.blanks ++ run }
        else if (run.take (tabColumn - cur.column)).contains '\t' then Option.none
        else readGap tabColumn fuel (cur.skip run.length) gap
      else if isBreak c then
        let (text, cur) := cur.skipBreak
        if gap.broken then
          readGap tabColumn fuel cur { gap with furtherBreaks := text ++ gap.furtherBreaks }
        else readGap tabColumn fuel cur ⟨true, [], text, []⟩
      else some (gap, cur)

/-! ## §B Plain scalars -/

/-- The brackets and commas of flow collections. -/
def isFlowMark (c : Char) : Bool :=
  c == ',' || c == '[' || c == ']' || c == '\x7b' || c == '\x7d'

/-- The word at the start of a text, after the characters given, the last one first. Inside a flow
collection a colon before a mark is refused. -/
def plainWord (flow : Bool) (word : List Char) : List Char → Option (List Char)
  | [] => some word.reverse
  | c :: s =>
    if isBlank c || isBreak c then some word.reverse
    else if c == ':' && flow && (s.take 1).any (fun d => isFlowMark d || d == '?') then none
    else if c == ':' && atGap s then some word.reverse
    else if flow && isFlowMark c then some word.reverse
    else plainWord flow (c :: word) s

/-- A plain scalar that goes on here, after the text given, its last character first, and the gap
given: its text, whether it ended after a line break, and where. -/
def readPlain (flow : Bool) (indent : Nat) :
    Nat → Cursor → List Char → Gap → Option (List Char × Bool × Cursor)
  | 0, cur, text, gap => some (text.reverse, gap.broken, cur)
  | fuel + 1, cur, text, gap =>
    if cur.atDocumentMark || cur.rest.head? == some '#' then some (text.reverse, gap.broken, cur)
    else do
      let word ← plainWord flow [] cur.rest
      let (text, gap) :=
        if word = [] then (text, gap) else ((gap.text ++ word).reverseAux text, Gap.none)
      let cur := cur.skip word.length
      if cur.rest ≠ [] ∧ atGap cur.rest then
        let (gap, cur) ← readGap indent cur.fuel cur gap
        if !flow && cur.column < indent then some (text.reverse, gap.broken, cur)
        else readPlain flow indent fuel cur text gap
      else some (text.reverse, gap.broken, cur)

/-! ## §C Quoted scalars -/

/-- The character that a letter after a backslash stands for. -/
def escape? : Char → Option Char
  | '0' => some '\x00'
  | 'a' => some '\x07'
  | 'b' => some '\x08'
  | 't' => some '\t'
  | '\t' => some '\t'
  | 'n' => some '\n'
  | 'v' => some '\x0b'
  | 'f' => some '\x0c'
  | 'r' => some '\r'
  | 'e' => some '\x1b'
  | ' ' => some ' '
  | '"' => some '"'
  | '/' => some '/'
  | '\\' => some '\\'
  | 'N' => some '\u0085'
  | '_' => some '\u00a0'
  | 'L' => some '\u2028'
  | 'P' => some '\u2029'
  | _ => none

/-- How many hexadecimal digits follow a letter after a backslash. -/
def hexWidth? : Char → Option Nat
  | 'x' => some 2
  | 'u' => some 4
  | 'U' => some 8
  | _ => none

/-- The character of a number, unless it is a surrogate or too great. -/
def scalarOf? (n : Nat) : Option Char := if n.isValidChar then some (Char.ofNat n) else none

/-- The character of the escape that starts at a backslash, and how long the escape is. -/
def readEscape : List Char → Option (Char × Nat)
  | _ :: c :: s =>
    match hexWidth? c with
    | some width => do
      let digits := s.take width
      if digits.length < width then none
      let n ← Json.Written.hex? digits
      let char ← scalarOf? n
      some (char, width + 2)
    | none => (escape? c).map (·, 2)
  | _ => none

/-- A quoted scalar that goes on here, after its opening quotation mark and the text given, its last
character first. -/
def readQuoted (double : Bool) : Nat → Cursor → List Char → Option (List Char × Cursor)
  | 0, _, _ => none
  | fuel + 1, cur, text =>
    let mark := if double then '"' else '\''
    if cur.atDocumentMark then none
    else
      match cur.rest with
      | [] => none
      | c :: s =>
        if atGap cur.rest then do
          let (gap, cur) ← readGap 0 cur.fuel cur Gap.none
          readQuoted double fuel cur (gap.text.reverseAux text)
        else if !double && c == mark && s.head? == some mark then
          readQuoted double fuel (cur.skip 2) (mark :: text)
        else if c == mark then some (text.reverse, cur.skip 1)
        else if double && c == '\\' && (s.take 1).any isBreak then do
          let (_, cur) := (cur.skip 1).skipBreak
          let (gap, cur) ← readGap 0 cur.fuel cur Gap.uncounted
          readQuoted double fuel cur (gap.text.reverseAux text)
        else if double && c == '\\' then do
          let (char, length) ← readEscape cur.rest
          readQuoted double fuel (cur.skip length) (char :: text)
        else readQuoted double fuel (cur.skip 1) (c :: text)

/-! ## §D Block scalars -/

/-- What becomes of the line breaks at the end of a block scalar. -/
inductive Chomping where
  | strip
  | clip
  | keep

/-- The chomping that a mark asks for. -/
def chomping? : Char → Option Chomping
  | '-' => some .strip
  | '+' => some .keep
  | _ => none

/-- The indentation that a digit asks for. -/
def indentation? (c : Char) : Option Nat :=
  if c.isDigit && c != '0' then some (Digits.value c) else none

/-- The marks after the mark of a block scalar: chomping and indentation in either order. -/
def readHeader (cur : Cursor) : Chomping × Option Nat × Cursor :=
  match cur.rest with
  | c :: d :: _ =>
    match chomping? c, indentation? c, chomping? d, indentation? d with
    | some chomping, _, _, some n => (chomping, some n, cur.skip 2)
    | some chomping, _, _, none => (chomping, none, cur.skip 1)
    | none, some n, some chomping, _ => (chomping, some n, cur.skip 2)
    | none, some n, none, _ => (.clip, some n, cur.skip 1)
    | none, none, _, _ => (.clip, none, cur)
  | [c] =>
    match chomping? c, indentation? c with
    | some chomping, _ => (chomping, none, cur.skip 1)
    | none, some n => (.clip, some n, cur.skip 1)
    | none, none => (.clip, none, cur)
  | [] => (.clip, none, cur)

/-- The empty lines and the indentation that come next: the texts of the breaks, the widest
indentation seen, and where the next line with something on it starts. Without a known indentation
any number of spaces is passed over; a tab among them is refused. The texts given come before, the
last one first. -/
def readEmptyLines (indent : Option Nat) :
    Nat → Cursor → List Char → Nat → Option (List Char × Nat × Cursor)
  | 0, cur, breaks, widest => some (breaks.reverse, widest, cur)
  | fuel + 1, cur, breaks, widest =>
    let spaces := (cur.rest.takeWhile (· == ' ')).length
    let cur := cur.skip <| match indent with
      | some n => min spaces (n - cur.column)
      | none => spaces
    let widest := max widest cur.column
    let within := match indent with
      | some n => cur.column < n
      | none => true
    match cur.rest with
    | c :: _ =>
      if within && c == '\t' then none
      else if isBreak c then
        let (text, cur) := cur.skipBreak
        readEmptyLines indent fuel cur (text ++ breaks) widest
      else some (breaks.reverse, widest, cur)
    | [] => some (breaks.reverse, widest, cur)

/-- The lines of a block scalar, as far as they are read. -/
structure BlockLines where
  /-- The text up to the end of the last line, its last character first. -/
  text : List Char
  /-- The text of the break that ended the last line. -/
  firstBreak : List Char
  /-- The texts of the breaks of the empty lines since. -/
  furtherBreaks : List Char
  /-- Whether the last line started with a blank. -/
  blankBefore : Bool

/-- What stands between the last line and the one that comes next. -/
def BlockLines.between (folded blankHere : Bool) (lines : BlockLines) : List Char :=
  if folded && lines.firstBreak == ['\n'] && !lines.blankBefore && !blankHere then
    if lines.furtherBreaks = [] then [' '] else lines.furtherBreaks
  else lines.firstBreak ++ lines.furtherBreaks

/-- The lines of a block scalar from here on, after those given. -/
def readBlockLines (folded : Bool) (indent : Nat) :
    Nat → Cursor → BlockLines → Option (BlockLines × Cursor)
  | 0, cur, lines => some (lines, cur)
  | fuel + 1, cur, lines =>
    if cur.column ≠ indent ∨ cur.rest = [] then some (lines, cur)
    else do
      let blankBefore := (cur.rest.take 1).any isBlank
      let line := cur.rest.takeWhile fun c => !isBreak c
      let text := (lines.between folded blankBefore ++ line).reverseAux lines.text
      let (firstBreak, cur) := (cur.skip line.length).skipBreak
      let (furtherBreaks, _, cur) ← readEmptyLines (some indent) cur.fuel cur [] 0
      readBlockLines folded indent fuel cur { text, firstBreak, furtherBreaks, blankBefore }

/-- The text of a block scalar. -/
def BlockLines.chomp (lines : BlockLines) : Chomping → List Char
  | .strip => lines.text.reverse
  | .clip => lines.text.reverse ++ lines.firstBreak
  | .keep => lines.text.reverse ++ lines.firstBreak ++ lines.furtherBreaks

/-- A block scalar from after its mark, in a block of the given indentation. -/
def readBlock (folded : Bool) (parent : Option Nat) (cur : Cursor) :
    Option (List Char × Cursor) := do
  let (chomping, increment, cur) := readHeader cur
  let cur := (cur.skipWhile isBlank).skipComment
  if !cur.atLineEnd then none
  let (_, cur) := cur.skipBreak
  let known := increment.map (parent.getD 0 + ·)
  let (breaks, widest, cur) ← readEmptyLines known cur.fuel cur [] 0
  let least := match parent with
    | some n => n + 1
    | none => 1
  let indent := known.getD (max widest least)
  let (lines, cur) ← readBlockLines folded indent cur.fuel cur ⟨[], [], breaks, false⟩
  some (lines.chomp chomping, cur)

end DomainFilter.Yaml
