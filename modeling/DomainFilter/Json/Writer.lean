/-
# DomainFilter.Json.Writer — compact JSON text

No blanks; members in key order. A string escapes the quotation mark, the backslash and the control
characters below the blank, five of them by a letter and the others by four lower-case hexadecimal
digits; every other character stands for itself. A real number is positional from `10 ^ -5` up to
`10 ^ 16` and keeps a point, and one that is not finite is written as null.
-/
import DomainFilter.Json.Basic
import DomainFilter.Number.Layout

namespace DomainFilter.Json

/-- Real numbers keep a point, positional from `10 ^ -5` up to `10 ^ 16`. -/
def numberLayout : NumberLayout where
  positional exponent := -5 ≤ exponent && exponent < 16
  wholePoint := true
  tie := .even

/-- The letter that escapes a control character. -/
def escapeLetter? : Char → Option Char
  | '"' => some '"'
  | '\\' => some '\\'
  | '\x08' => some 'b'
  | '\x0c' => some 'f'
  | '\n' => some 'n'
  | '\r' => some 'r'
  | '\t' => some 't'
  | _ => none

/-- The text of one character of a string. -/
def writeChar (c : Char) : List Char :=
  match escapeLetter? c with
  | some letter => ['\\', letter]
  | none =>
    if c.toNat < 0x20 then
      ['\\', 'u', '0', '0', Nat.digitChar (c.toNat / 16), Nat.digitChar (c.toNat % 16)]
    else [c]

/-- The text of a string, with its quotation marks. -/
def writeString (s : String) : List Char := '"' :: s.toList.flatMap writeChar ++ ['"']

/-- The text of a real number. -/
def writeReal : Binary64 → List Char
  | .nan => "null".toList
  | .signed negative m =>
    if m = Binary64.infinity then "null".toList else numberLayout.write negative m

mutual

/-- The text of a JSON value. -/
def write : Json → List Char
  | .null => "null".toList
  | .bool b => if b then "true".toList else "false".toList
  | .whole n => Digits.writeInt n
  | .real x => writeReal x
  | .string s => writeString s
  | .array items => '[' :: writeItems items ++ [']']
  | .object members => '\x7b' :: writeMembers members ++ ['\x7d']

/-- The texts of the items of an array, with commas between them. -/
def writeItems : List Json → List Char
  | [] => []
  | [item] => write item
  | item :: next :: rest => write item ++ ',' :: writeItems (next :: rest)

/-- The texts of the members of an object, with commas between them. -/
def writeMembers : List (String × Json) → List Char
  | [] => []
  | [(key, value)] => writeString key ++ ':' :: write value
  | (key, value) :: next :: rest =>
    writeString key ++ ':' :: write value ++ ',' :: writeMembers (next :: rest)

end

/-- The text of a JSON value, as a string. -/
def text (json : Json) : String := String.ofList (write json)

end DomainFilter.Json
