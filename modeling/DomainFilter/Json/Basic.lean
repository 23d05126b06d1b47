/-
# DomainFilter.Json.Basic — JSON values

A JSON value with two kinds of number: a whole number, written without point or exponent, and a
finite binary64 number, written with one of them. Objects hold their members in key order.
-/
import DomainFilter.Fields
import DomainFilter.Number.Binary64

namespace DomainFilter

/-- A JSON value. -/
inductive Json where
  | null
  | bool (b : Bool)
  | whole (n : Int)
  | real (x : Binary64)
  | string (s : String)
  | array (items : List Json)
  | object (members : List (String × Json))
  deriving Inhabited

namespace Json

/-- The members of an object; nothing else has members. -/
def members? : Json → Option (Fields Json)
  | .object members => some members
  | _ => none

/-- The member of an object under a key. -/
def get? (key : String) (json : Json) : Option Json :=
  json.members?.bind (Fields.get? key)

/-- The items of an array; nothing else has items. -/
def items? : Json → Option (List Json)
  | .array items => some items
  | _ => none

/-- The text of a string; nothing else is one. -/
def string? : Json → Option String
  | .string s => some s
  | _ => none

/-- The members of every object in a JSON value are in key order. -/
inductive WellFormed : Json → Prop where
  | null : WellFormed .null
  | bool (b : Bool) : WellFormed (.bool b)
  | whole (n : Int) : WellFormed (.whole n)
  | real (x : Binary64) : WellFormed (.real x)
  | string (s : String) : WellFormed (.string s)
  | array {items : List Json} :
      (∀ item ∈ items, WellFormed item) → WellFormed (.array items)
  | object {members : Fields Json} :
      Fields.Sorted members → (∀ member ∈ members, WellFormed member.2) →
        WellFormed (.object members)

end Json

end DomainFilter
