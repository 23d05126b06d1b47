/-
# DomainFilter.Value.Json — values to and from JSON

Two encodings. The plain one writes a number of at most `2 ^ 53 - 1` without fraction as a whole
number, any other finite number as a real one; the real one writes every finite number as a real.
Both write a number that is not finite as null. Decoding takes each JSON number for the nearest
binary64 number.
-/
import DomainFilter.Value.Basic
import DomainFilter.Json.Basic
import DomainFilter.Number.Rounding

namespace DomainFilter.Value

/-- A finite number as a real one, anything else as null. -/
def realJson (x : Binary64) : Json := if x.isFinite then .real x else .null

/-- A number, whole where that is exact and short. -/
def numberJson (x : Binary64) : Json :=
  match x.exactInt? with
  | some n => .whole n
  | none => realJson x

mutual

/-- A value as JSON, each number by the given encoding. -/
def encode (number : Binary64 → Json) : Value → Json
  | .null => .null
  | .bool b => .bool b
  | .number x => number x
  | .string s => .string s
  | .array items => .array (encodeItems number items)
  | .object fields => .object (encodeFields number fields)

/-- The items of an array as JSON. -/
def encodeItems (number : Binary64 → Json) : List Value → List Json
  | [] => []
  | item :: items => encode number item :: encodeItems number items

/-- The fields of an object as JSON. -/
def encodeFields (number : Binary64 → Json) : List (String × Value) → List (String × Json)
  | [] => []
  | (key, value) :: fields => (key, encode number value) :: encodeFields number fields

end

/-- A value as JSON: whole numbers as such where that is exact. -/
def toJson (value : Value) : Json := encode numberJson value

/-- A value as JSON with every number a real one. -/
def toRealJson (value : Value) : Json := encode realJson value

mutual

/-- The value that a JSON value stands for. -/
def ofJson : Json → Value
  | .null => .null
  | .bool b => .bool b
  | .whole n => .number (Binary64.ofInt n)
  | .real x => .number x
  | .string s => .string s
  | .array items => .array (itemsOfJson items)
  | .object members => .object (fieldsOfJson members)

/-- The items that JSON items stand for. -/
def itemsOfJson : List Json → List Value
  | [] => []
  | item :: items => ofJson item :: itemsOfJson items

/-- The fields that JSON members stand for. -/
def fieldsOfJson : List (String × Json) → List (String × Value)
  | [] => []
  | (key, value) :: members => (key, ofJson value) :: fieldsOfJson members

end

end DomainFilter.Value
