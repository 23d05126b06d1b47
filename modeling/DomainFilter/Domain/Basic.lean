/-
# DomainFilter.Domain.Basic — conditions, clauses and domains

A condition compares an operand with a value by an operator. A clause is a list of conditions that
all have to hold, a domain a list of clauses of which one has to hold; the domain without clauses
holds of every record. Nothing is checked when they are built, and nothing is removed: the order and
the repetitions of conditions and clauses stay.

§A the types, §B their array form, §C their equality, §D building a domain up.
-/
import DomainFilter.Operator
import DomainFilter.Value.Text

namespace DomainFilter

/-! ## §A Types -/

/-- A comparison of an operand with a value. -/
structure Condition where
  /-- A field name or a literal. -/
  operand : Value
  operator : Operator
  /-- A literal, a list, or a text that refers to something outside the record. -/
  value : Value
  deriving Inhabited

/-- Conditions that all have to hold. -/
structure Clause where
  conditions : List Condition
  deriving Inhabited

/-- Clauses of which one has to hold; without clauses it holds always. -/
structure Domain where
  clauses : List Clause
  deriving Inhabited

/-! ## §B The array form -/

namespace Condition

/-- The operator at the second place of an array: what is not a string is an unsupported token of
the same text, and a missing one the empty token. -/
def operatorOf : Option Value → Operator
  | some (.string token) => .ofToken token
  | some other => .unsupported other.toText
  | none => .unsupported ""

/-- The condition of an array's first three places. A missing place is null; more places count for
nothing. -/
def ofItems (items : List Value) : Condition where
  operand := items[0]?.getD .null
  operator := operatorOf items[1]?
  value := items[2]?.getD .null

/-- The value as it is written: a null is written as the string `null`. -/
def writtenValue : Value → Value
  | .null => .string "null"
  | value => value

/-- The array form of a condition. -/
def toValue (c : Condition) : Value :=
  .array [c.operand, .string c.operator.token, writtenValue c.value]

end Condition

/-- The array form of a clause: those of its conditions. -/
def Clause.toValue (c : Clause) : Value := .array (c.conditions.map Condition.toValue)

/-- The array form of a domain: those of its clauses. -/
def Domain.toValue (d : Domain) : Value := .array (d.clauses.map Clause.toValue)

/-! ## §C Equality -/

/-- Equality of conditions, numbers compared as numbers. -/
def Condition.equals (c d : Condition) : Bool :=
  c.operand.equals d.operand && c.operator == d.operator && c.value.equals d.value

/-- Equality of clauses, condition by condition. -/
def Clause.equals (c d : Clause) : Bool :=
  c.conditions.length == d.conditions.length
    && (c.conditions.zip d.conditions).all fun (x, y) => x.equals y

namespace Domain

/-- Equality of domains, clause by clause. -/
def equals (c d : Domain) : Bool :=
  c.clauses.length == d.clauses.length && (c.clauses.zip d.clauses).all fun (x, y) => x.equals y

/-! ## §D Building up -/

/-- The domain that holds of every record. -/
def empty : Domain := ⟨[]⟩

def isEmpty (d : Domain) : Bool := d.clauses.isEmpty

/-- All conditions of all clauses, in order. -/
def conditions (d : Domain) : List Condition := d.clauses.flatMap Clause.conditions

/-- One more clause, after the others. -/
def addClause (clause : Clause) (d : Domain) : Domain := ⟨d.clauses ++ [clause]⟩

/-- One more condition in every clause, after the others; without clauses it has no place. -/
def addCondition (condition : Condition) (d : Domain) : Domain :=
  ⟨d.clauses.map fun clause => ⟨clause.conditions ++ [condition]⟩⟩

/-- The domain with another value in one condition, if it has that clause and condition. -/
def setValue? (clause condition : Nat) (value : Value) (d : Domain) : Option Domain := do
  let old ← d.clauses[clause]?
  let target ← old.conditions[condition]?
  some ⟨d.clauses.set clause ⟨old.conditions.set condition { target with value }⟩⟩

end Domain

end DomainFilter
