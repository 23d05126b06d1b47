/-
# DomainFilter.Reference.Path — walking into a record

A path is a text of segments with points between them. The first segment is a field of the record;
each further one is a field of an object, or an index into an array, counted from 0. The walk ends
without a value at a missing field, at what is no index or is out of bounds, and at anything that is
neither an object nor an array. A null at the end of the walk is a value.
-/
import DomainFilter.Value.Basic
import DomainFilter.Number.Digits
import DomainFilter.Text.Segments

namespace DomainFilter.Path

/-- The greatest index. -/
def greatestIndex : Nat := Nat.pow 2 64 - 1

/-- The digits of an index, without the plus sign that may stand before them. -/
def indexDigits : List Char → List Char
  | '+' :: s => s
  | s => s

/-- The index that a segment says: digits, zeros at the front allowed. -/
def index? (segment : List Char) : Option Nat :=
  let digits := indexDigits segment
  if digits ≠ [] ∧ digits.all Char.isDigit ∧ Digits.read digits ≤ greatestIndex then
    some (Digits.read digits)
  else none

/-- The value one segment further. -/
def step? (value : Value) (segment : List Char) : Option Value :=
  match value with
  | .object fields => Fields.get? (String.ofList segment) fields
  | .array items => (index? segment).bind fun i => items[i]?
  | _ => none

/-- The value at the end of a walk. -/
def walk? (value : Value) (path : List (List Char)) : Option Value := path.foldlM step? value

/-- The value at a path in a record. -/
def lookup? (record : Record) (path : String) : Option Value :=
  walk? (.object record) (Text.segments '.' path.toList)

end DomainFilter.Path
