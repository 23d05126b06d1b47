/-
# DomainFilter.Value.Basic — the values that a domain sees

Operands, condition values and record fields are values of one type. Its equality `Value.equals` is
that of the parts: numbers are equal as numbers, so the two zeros are equal and not-a-number is
equal to nothing, at any depth; records are equal if they have equal fields under the same names,
which for fields in key order is equality of the lists, pair by pair.
-/
import DomainFilter.Fields
import DomainFilter.Number.Binary64

namespace DomainFilter

/-- A value. -/
inductive Value where
  | null
  | bool (b : Bool)
  | number (x : Binary64)
  | string (s : String)
  | array (items : List Value)
  | object (fields : List (String × Value))
  deriving Inhabited

/-- The fields of a record: the current one, the user's, the parent's or the environment's. -/
abbrev Record := Fields Value

namespace Value

/-! ## §A Parts -/

def isNull : Value → Bool
  | .null => true
  | _ => false

def isNumber : Value → Bool
  | .number _ => true
  | _ => false

/-- The text of a string; nothing else is one. -/
def string? : Value → Option String
  | .string s => some s
  | _ => none

/-- The number that a value is; nothing is converted. -/
def number? : Value → Option Binary64
  | .number x => some x
  | _ => none

/-- The items of an array; nothing else has items. -/
def items? : Value → Option (List Value)
  | .array items => some items
  | _ => none

/-- The fields of an object; nothing else has fields. -/
def fields? : Value → Option Record
  | .object fields => some fields
  | _ => none

/-- The field of an object under a key. -/
def get? (key : String) (value : Value) : Option Value :=
  value.fields?.bind (Fields.get? key)

/-- The record that a value is; anything but an object counts as the empty record. -/
def toRecord (value : Value) : Record := value.fields?.getD []

/-! ## §B Equality -/

mutual

/-- Equality of values, numbers compared as numbers. -/
def equals : Value → Value → Bool
  | .null, .null => true
  | .bool a, .bool b => a == b
  | .number x, .number y => x.equals y
  | .string s, .string t => s == t
  | .array xs, .array ys => itemsEqual xs ys
  | .object xs, .object ys => fieldsEqual xs ys
  | _, _ => false

/-- Equality of lists of values, item by item. -/
def itemsEqual : List Value → List Value → Bool
  | [], [] => true
  | x :: xs, y :: ys => equals x y && itemsEqual xs ys
  | _, _ => false

/-- Equality of fields in key order, pair by pair. -/
def fieldsEqual : List (String × Value) → List (String × Value) → Bool
  | [], [] => true
  | (a, x) :: xs, (b, y) :: ys => a == b && equals x y && fieldsEqual xs ys
  | _, _ => false

end

/-- Whether a list has a member equal to a value. -/
def memberOf (value : Value) (items : List Value) : Bool := items.any fun item => item.equals value

/-! ## §C Well-formed values -/

/-- The fields of every object in a value are in key order. -/
inductive WellFormed : Value → Prop where
  | null : WellFormed .null
  | bool (b : Bool) : WellFormed (.bool b)
  | number (x : Binary64) : WellFormed (.number x)
  | string (s : String) : WellFormed (.string s)
  | array {items : List Value} :
      (∀ item ∈ items, WellFormed item) → WellFormed (.array items)
  | object {fields : Record} :
      Fields.Sorted fields → (∀ field ∈ fields, WellFormed field.2) → WellFormed (.object fields)

end Value

end DomainFilter
