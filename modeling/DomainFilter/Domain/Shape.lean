/-
# DomainFilter.Domain.Shape — reading a domain from an array

A *condition array* has three items, the second of them a known token. A domain is read from

* null or the empty array: no clauses;
* a condition array: one clause of one condition;
* an array that starts with a condition array: one clause, an array for each condition;
* an array that starts with an array that starts with a condition array: an array for each clause,
  and in it one for each condition.

Only these first items decide the shape; the conditions that follow may be arrays of any kind. Where
an array is wanted and something else stands, the first such place in reading order is the error.

`Domain.ofValue?` reports errors. `Domain.ofValue` reads anything, and what has no shape of these is
the domain without clauses, which holds of every record.
-/
import DomainFilter.Domain.Basic
import DomainFilter.Value.Json
import DomainFilter.Json.Writer
import DomainFilter.Json.Reader

namespace DomainFilter

/-- Why a value cannot be read as a domain. -/
inductive ShapeError where
  /-- The domain is no array. -/
  | domainNotArray (raw : Value)
  /-- A clause is no array. -/
  | clauseNotArray (raw : Value)
  /-- A condition is no array. -/
  | conditionNotArray (raw : Value)
  /-- An array that starts in none of the known ways. -/
  | unrecognized (raw : Value)

namespace ShapeError

/-- Whether it is a condition that is wrong, and not the domain. -/
def isCondition : ShapeError → Bool
  | .conditionNotArray _ => true
  | _ => false

/-- The text of the error. -/
def message : ShapeError → String
  | .domainNotArray raw => "Invalid domain: expected an array, got " ++ raw.toText
  | .clauseNotArray raw => "Invalid domain: expected a clause array, got " ++ raw.toText
  | .conditionNotArray raw => "Invalid condition: expected an array, got " ++ raw.toText
  | .unrecognized raw => "Invalid domain: unrecognized domain shape: " ++ raw.toJson.text

end ShapeError

/-- Three items, the second of them a known token. -/
def Value.isConditionArray : Value → Bool
  | .array [_, .string token, _] => Operator.isKnown token
  | _ => false

/-- An array that starts with a condition array. -/
def Value.startsWithCondition : Value → Bool
  | .array (first :: _) => first.isConditionArray
  | _ => false

/-- The condition of an array. -/
def Condition.ofValue? : Value → Except ShapeError Condition
  | .array items => .ok (.ofItems items)
  | raw => .error (.conditionNotArray raw)

/-- The clause of the arrays of its conditions. -/
def Clause.ofItems? (items : List Value) : Except ShapeError Clause :=
  (items.mapM Condition.ofValue?).map Clause.mk

/-- The clause of an array. -/
def Clause.ofValue? : Value → Except ShapeError Clause
  | .array items => Clause.ofItems? items
  | raw => .error (.clauseNotArray raw)

namespace Domain

/-- The domain of a value, or why it has none. -/
def ofValue? : Value → Except ShapeError Domain
  | .null => .ok empty
  | .array [] => .ok empty
  | .array (first :: rest) =>
    if (Value.array (first :: rest)).isConditionArray then
      .ok ⟨[⟨[.ofItems (first :: rest)]⟩]⟩
    else if first.isConditionArray then
      (Clause.ofItems? (first :: rest)).map fun clause => ⟨[clause]⟩
    else if first.startsWithCondition then
      ((first :: rest).mapM Clause.ofValue?).map Domain.mk
    else .error (.unrecognized (.array (first :: rest)))
  | raw => .error (.domainNotArray raw)

/-- The domain of a value; what has none of the known shapes is read as the empty domain. -/
def ofValue (raw : Value) : Domain :=
  match ofValue? raw with
  | .ok domain => domain
  | .error _ => empty

/-- The domain of a JSON text; none if the text is not JSON. -/
def ofJsonText? (s : String) : Option Domain :=
  (Json.ofText? s).map fun json => ofValue (.ofJson json)

/-- The JSON text of a domain. -/
def jsonText (d : Domain) : String := d.toValue.toJson.text

end Domain

end DomainFilter
