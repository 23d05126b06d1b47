/-
# DomainFilter.Value.Coercion — values taken as truths and as numbers

Three readings of a value. *Truthy*: null, false, zero, not-a-number and the empty string are not;
every array and object is. *Empty-like*: null, false, the empty string and the empty array are; no
number is. *As a number*: null and blank strings are 0, booleans 0 and 1, strings the number that
they say, and what says no number is not-a-number.
-/
import DomainFilter.Value.Basic
import DomainFilter.Number.Numeral
import DomainFilter.Text.Blank

namespace DomainFilter.Value

/-- Whether a value counts as true. -/
def isTruthy : Value → Bool
  | .null => false
  | .bool b => b
  | .number x => !x.isZero && !x.isNaN
  | .string s => s != ""
  | .array _ => true
  | .object _ => true

/-- Whether a value counts as empty. -/
def isEmptyLike : Value → Bool
  | .null => true
  | .bool b => !b
  | .number _ => false
  | .string s => s == ""
  | .array items => items.isEmpty
  | .object _ => false

/-- The number that a string says, white space at its ends aside. -/
def numeralOf? (s : String) : Option Binary64 := Numeral.read? (Text.trim s.toList)

/-- The number that a value is taken for where one is wanted. -/
def toNumber : Value → Binary64
  | .null => .zero
  | .bool b => Binary64.ofNat (if b then 1 else 0)
  | .number x => x
  | .string s => if Text.trim s.toList = [] then .zero else (numeralOf? s).getD .nan
  | .array _ => .nan
  | .object _ => .nan

/-- The number that a value says: a number, or a string that holds a numeral. -/
def numeric? : Value → Option Binary64
  | .number x => some x
  | .string s => numeralOf? s
  | _ => none

/-- A value that says a number converts to it. -/
theorem toNumber_of_numeric? {value : Value} {y : Binary64} (h : value.numeric? = some y) :
    value.toNumber = y := by
  cases value with
  | number z => exact Option.some_inj.mp h
  | string s =>
    have hnumeral : numeralOf? s = some y := h
    have hnonempty : Text.trim s.toList ≠ [] := by
      intro hblank
      rw [numeralOf?, hblank] at hnumeral
      cases hnumeral
    rw [toNumber, if_neg hnonempty, hnumeral]
    rfl
  | _ => cases h

end DomainFilter.Value
