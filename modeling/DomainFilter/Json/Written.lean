/-
# DomainFilter.Json.Written — JSON texts, by the grammar of RFC 8259

A text of the grammar is read into a `Written` value, which keeps what the grammar leaves open: how
great a number is, how deep values nest, and whether the `\u` escapes of a string make characters.
Those questions belong to a value's meaning (`DomainFilter.Json.Reader`), and a reader that passes
over a member it has no use for never asks them.

Each reader of a part of a text gives what it read and the text after it. Blanks are the space, the
tab, the line feed and the carriage return; nothing follows the value.
-/
import DomainFilter.Number.Digits

namespace DomainFilter.Json

/-- A piece of a string: a character, or the unit of a `\u` escape. -/
inductive Piece where
  | char (c : Char)
  | unit (n : Nat)

/-- A number as it is written: digits before the point, digits after it if there is one, and the
exponent if there is one. -/
structure WrittenNumber where
  negative : Bool
  whole : List Char
  fraction : Option (List Char)
  exponent : Option Int

/-- A value as it is written. -/
inductive Written where
  | null
  | bool (b : Bool)
  | number (n : WrittenNumber)
  | string (pieces : List Piece)
  | array (items : List Written)
  | object (members : List (List Piece × Written))

namespace Written

/-- The blanks of the grammar. -/
def isBlank (c : Char) : Bool := c == ' ' || c == '\t' || c == '\n' || c == '\r'

/-- A text without its leading blanks. -/
def skipBlanks (s : List Char) : List Char := s.dropWhile isBlank

/-- The value of a hexadecimal digit. -/
def hexValue? (c : Char) : Option Nat :=
  if c.isDigit then some (c.toNat - '0'.toNat)
  else if 'a' ≤ c ∧ c ≤ 'f' then some (c.toNat - 'a'.toNat + 10)
  else if 'A' ≤ c ∧ c ≤ 'F' then some (c.toNat - 'A'.toNat + 10)
  else none

/-- The number that hexadecimal digits say. -/
def hex? (digits : List Char) : Option Nat :=
  digits.foldlM (fun n c => (hexValue? c).map (16 * n + ·)) 0

/-- The character that a letter after a backslash stands for. -/
def unescape? : Char → Option Char
  | '"' => some '"'
  | '\\' => some '\\'
  | '/' => some '/'
  | 'b' => some '\x08'
  | 'f' => some '\x0c'
  | 'n' => some '\n'
  | 'r' => some '\r'
  | 't' => some '\t'
  | _ => none

/-- The rest of a string after its opening quotation mark, up to the closing one. -/
def readPieces : List Char → Option (List Piece × List Char)
  | [] => none
  | '"' :: s => some ([], s)
  | '\\' :: 'u' :: a :: b :: c :: d :: s => do
    let n ← hex? [a, b, c, d]
    let (pieces, s) ← readPieces s
    some (.unit n :: pieces, s)
  | '\\' :: letter :: s => do
    let c ← unescape? letter
    let (pieces, s) ← readPieces s
    some (.char c :: pieces, s)
  | c :: s => do
    if c.toNat < 0x20 then none
    let (pieces, s) ← readPieces s
    some (.char c :: pieces, s)

/-- The digits before the point: a zero alone, or digits that start with no zero. -/
def readWhole (s : List Char) : Option (List Char × List Char) :=
  match s.span Char.isDigit with
  | ([], _) => none
  | ('0' :: _ :: _, _) => none
  | (digits, s) => some (digits, s)

/-- The point and the digits after it, if there is a point. -/
def readFraction : List Char → Option (Option (List Char) × List Char)
  | '.' :: s =>
    match s.span Char.isDigit with
    | ([], _) => none
    | (digits, s) => some (some digits, s)
  | s => some (none, s)

/-- The sign of an exponent, and the text after it. -/
def readSign : List Char → Bool × List Char
  | '+' :: s => (false, s)
  | '-' :: s => (true, s)
  | s => (false, s)

/-- The exponent, if there is one. -/
def readExponent : List Char → Option (Option Int × List Char)
  | [] => some (none, [])
  | c :: s =>
    if c = 'e' ∨ c = 'E' then
      let (negative, s) := readSign s
      match s.span Char.isDigit with
      | ([], _) => none
      | (digits, s) =>
        let n : Int := Digits.read digits
        some (some (if negative then -n else n), s)
    else some (none, c :: s)

/-- A number without its sign. -/
def readMagnitude (negative : Bool) (s : List Char) : Option (Written × List Char) := do
  let (digits, s) ← readWhole s
  let (fraction, s) ← readFraction s
  let (exponent, s) ← readExponent s
  some (.number ⟨negative, digits, fraction, exponent⟩, s)

/-- A value that is not an array or an object. -/
def readScalar : List Char → Option (Written × List Char)
  | 'n' :: 'u' :: 'l' :: 'l' :: s => some (.null, s)
  | 't' :: 'r' :: 'u' :: 'e' :: s => some (.bool true, s)
  | 'f' :: 'a' :: 'l' :: 's' :: 'e' :: s => some (.bool false, s)
  | '"' :: s => do
    let (pieces, s) ← readPieces s
    some (.string pieces, s)
  | '-' :: s => readMagnitude true s
  | s => readMagnitude false s

mutual

/-- The value at the start of a text. Each character opens at most two readings in one another, so
twice the length of the text, and two, is fuel enough. -/
def readValue : Nat → List Char → Option (Written × List Char)
  | 0, _ => none
  | fuel + 1, s =>
    match skipBlanks s with
    | '[' :: s =>
      match skipBlanks s with
      | ']' :: s => some (.array [], s)
      | s => do
        let (items, s) ← readItems fuel s
        some (.array items, s)
    | '\x7b' :: s =>
      match skipBlanks s with
      | '\x7d' :: s => some (.object [], s)
      | s => do
        let (members, s) ← readMembers fuel s
        some (.object members, s)
    | s => readScalar s

/-- The items of an array up to its closing bracket, at least one. -/
def readItems : Nat → List Char → Option (List Written × List Char)
  | 0, _ => none
  | fuel + 1, s => do
    let (item, s) ← readValue fuel s
    match skipBlanks s with
    | ',' :: s =>
      let (items, s) ← readItems fuel s
      some (item :: items, s)
    | ']' :: s => some ([item], s)
    | _ => none

/-- The members of an object up to its closing brace, at least one. -/
def readMembers : Nat → List Char → Option (List (List Piece × Written) × List Char)
  | 0, _ => none
  | fuel + 1, s =>
    match skipBlanks s with
    | '"' :: s => do
      let (key, s) ← readPieces s
      match skipBlanks s with
      | ':' :: s =>
        let (value, s) ← readValue fuel s
        match skipBlanks s with
        | ',' :: s =>
          let (members, s) ← readMembers fuel s
          some ((key, value) :: members, s)
        | '\x7d' :: s => some ([(key, value)], s)
        | _ => none
      | _ => none
    | _ => none

end

/-- The value that a whole text writes. -/
def read? (s : List Char) : Option Written :=
  match readValue (2 * s.length + 2) s with
  | some (value, s) => if skipBlanks s = [] then some value else none
  | none => none

end Written

end DomainFilter.Json
