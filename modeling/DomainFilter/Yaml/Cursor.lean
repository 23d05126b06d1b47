/-
# DomainFilter.Yaml.Cursor — a place in a YAML text

YAML reads columns: what a character means depends on how far its line is indented. A cursor is the
rest of the text with its line and column, and with the count of bytes before it in UTF-8, which
bounds how long the key of a mapping may be. A column counts characters.

Lines end at a carriage return, a line feed, both together, a next-line character, or one of the two
Unicode separators; all but the separators stand for a line feed in the text of a scalar.
-/

namespace DomainFilter.Yaml

/-- A place in a text. -/
structure Cursor where
  rest : List Char
  /-- The bytes before the place. -/
  index : Nat
  line : Nat
  column : Nat
  /-- The characters of the whole text: no loop over the rest of it takes more rounds. -/
  size : Nat

/-- The space and the tab. -/
def isBlank (c : Char) : Bool := c == ' ' || c == '\t'

/-- A character that ends a line. -/
def isBreak (c : Char) : Bool :=
  c == '\n' || c == '\r' || c == '\u0085' || c == '\u2028' || c == '\u2029'

/-- Whether a blank, the end of a line or the end of the text comes next. -/
def atGap : List Char → Bool
  | [] => true
  | c :: _ => isBlank c || isBreak c

/-- A character that a YAML text may hold. -/
def isAllowed (c : Char) : Bool :=
  let n := c.toNat
  n == 0x09 || n == 0x0A || n == 0x0D || (0x20 ≤ n && n ≤ 0x7E) || n == 0x85
    || (0xA0 ≤ n && n ≤ 0xD7FF) || (0xE000 ≤ n && n ≤ 0xFFFD) || 0x10000 ≤ n

/-- The bytes of a text in UTF-8. -/
def byteLength (s : List Char) : Nat := s.foldl (fun n c => n + c.utf8Size) 0

namespace Cursor

/-- The start of a text. -/
def start (s : List Char) : Cursor := ⟨s, 0, 0, 0, s.length⟩

/-- So many characters further on the same line. -/
def skip (count : Nat) (cur : Cursor) : Cursor :=
  { cur with
    rest := cur.rest.drop count
    index := cur.index + byteLength (cur.rest.take count)
    column := cur.column + count }

/-- After a line break of so many characters. -/
def newLine (count : Nat) (cur : Cursor) : Cursor :=
  { cur.skip count with line := cur.line + 1, column := 0 }

/-- After the line break that comes next, and the text that it stands for. -/
def skipBreak (cur : Cursor) : List Char × Cursor :=
  match cur.rest with
  | '\r' :: '\n' :: _ => (['\n'], cur.newLine 2)
  | '\u2028' :: _ => (['\u2028'], cur.newLine 1)
  | '\u2029' :: _ => (['\u2029'], cur.newLine 1)
  | _ :: _ => (['\n'], cur.newLine 1)
  | [] => ([], cur)

/-- After the characters on the line that satisfy `p`. -/
def skipWhile (p : Char → Bool) (cur : Cursor) : Cursor :=
  cur.skip (cur.rest.takeWhile p).length

/-- After the byte order mark, if one starts the line here. It takes up a column. -/
def skipOrderMark (cur : Cursor) : Cursor :=
  if cur.column = 0 ∧ cur.rest.head? = some '\ufeff' then cur.skip 1 else cur

/-- To the end of the line. -/
def skipLine (cur : Cursor) : Cursor := cur.skipWhile fun c => !isBreak c

/-- To the end of the line, past a comment, if a comment comes next. -/
def skipComment (cur : Cursor) : Cursor :=
  if cur.rest.head? = some '#' then cur.skipLine else cur

/-- Whether a line break or the end of the text comes next. -/
def atLineEnd (cur : Cursor) : Bool := (cur.rest.take 1).all isBreak

/-- Fuel for a loop that passes at least one character in each round. -/
def fuel (cur : Cursor) : Nat := cur.size + 1

/-- Whether the line starts here with the given mark, alone. -/
def atMark (mark : List Char) (cur : Cursor) : Bool :=
  cur.column == 0 && mark.isPrefixOf cur.rest && atGap (cur.rest.drop mark.length)

/-- The mark that starts a document. -/
def startMark : List Char := ['-', '-', '-']

/-- The mark that ends a document. -/
def endMark : List Char := ['.', '.', '.']

/-- Whether a document starts or ends here. -/
def atDocumentMark (cur : Cursor) : Bool := cur.atMark startMark || cur.atMark endMark

end Cursor

end DomainFilter.Yaml
