/-
# DomainFilter.Domain.Evaluation — domains against records

* §A *Substituting* replaces each reference among a domain's values by what it resolves to and
  leaves the others as they are.
* §B *Resolving* gives a resolved domain, whose values have no references left: a condition whose
  reference resolves to nothing has no value, and says nothing.
* §C A domain is *tested* by itself, operands taken as they stand. It is *evaluated* by resolving it
  and looking its operands up in the object: an operand that names a field stands for the field, and
  a related record counts as its `id`.
* §D Dates. `parse`, `resolve` and `evaluate` report a step of date arithmetic that leaves the
  calendar; the operations of §A to §C, which they otherwise are, go on with the clock's instant.
-/
import DomainFilter.Domain.Basic
import DomainFilter.Reference.Symbol
import DomainFilter.Verdict

namespace DomainFilter

/-! ## §A Substituting -/

/-- A condition with its value substituted, if it is a reference to something. -/
def Condition.substitute (ctx : Context) (c : Condition) : Condition :=
  match (Symbol.ofValue c.value).resolve ctx with
  | .resolved value => { c with value }
  | _ => c

/-- A domain with its values substituted. -/
def Domain.substitute (ctx : Context) (d : Domain) : Domain :=
  ⟨d.clauses.map fun clause => ⟨clause.conditions.map (·.substitute ctx)⟩⟩

/-! ## §B Resolving -/

/-- A condition whose value is no reference any more; none if it referred to nothing. -/
structure ResolvedCondition where
  operand : Value
  operator : Operator
  value : Option Value

/-- The clauses of a domain with their values resolved. -/
structure ResolvedDomain where
  clauses : List (List ResolvedCondition)
  deriving Inhabited

/-- A condition with its value resolved. -/
def Condition.resolved (ctx : Context) (c : Condition) : ResolvedCondition where
  operand := c.operand
  operator := c.operator
  value :=
    match (Symbol.ofValue c.value).resolve ctx with
    | .resolved value => some value
    | .literal => some c.value
    | .unresolved => none

/-- A domain with its values resolved. -/
def Domain.resolved (ctx : Context) (d : Domain) : ResolvedDomain :=
  ⟨d.clauses.map fun clause => clause.conditions.map (·.resolved ctx)⟩

/-! ## §C Testing and evaluating -/

/-- What a field counts as on the side of the operand. -/
def Value.collapseOperand : Value → Value
  | .object fields => (Fields.get? "id" fields).getD .null
  | value => value

/-- What an operand stands for in a record: the field that it names, or itself. -/
def Record.operand (record : Record) : Value → Value
  | .string name =>
    match Fields.get? name record with
    | some field => field.collapseOperand
    | none => .string name
  | value => value

namespace ResolvedCondition

/-- What a condition says when its operand stands for the given value. -/
def verdict (operand : Value → Value) (c : ResolvedCondition) : Option Bool :=
  c.value.bind fun value => Verdict.ofOperator c.operator (operand c.operand) value

end ResolvedCondition

namespace ResolvedDomain

/-- Whether the domain holds when its operands stand for the given values. -/
def holdsWith (operand : Value → Value) (d : ResolvedDomain) : Bool :=
  Verdict.ofClauses (d.clauses.map fun clause =>
    Verdict.ofConditions (clause.map (·.verdict operand)))

/-- Whether the domain holds of a record. -/
def evaluate (record : Record) (d : ResolvedDomain) : Bool := d.holdsWith (Record.operand record)

/-- Whether the domain holds with its operands as they stand. -/
def test (d : ResolvedDomain) : Bool := d.holdsWith id

def isEmpty (d : ResolvedDomain) : Bool := d.clauses.isEmpty

/-- All conditions of all clauses, in order. -/
def conditions (d : ResolvedDomain) : List ResolvedCondition := d.clauses.flatten

end ResolvedDomain

/-- What a condition says with its operand and its value as they stand. -/
def Condition.verdict (c : Condition) : Option Bool :=
  Verdict.ofOperator c.operator c.operand c.value

/-- Whether a domain holds with its operands and values as they stand. -/
def Domain.test (d : Domain) : Bool :=
  Verdict.ofClauses (d.clauses.map fun clause =>
    Verdict.ofConditions (clause.conditions.map Condition.verdict))

/-- Whether a domain holds in a context. -/
def Domain.holds (ctx : Context) (d : Domain) : Bool := (d.resolved ctx).evaluate ctx.object

/-! ## §D Dates outside the calendar -/

namespace Domain

/-- The first error in the date arithmetic of a domain's references. -/
def calendarError? (ctx : Context) (d : Domain) : Option CalendarError :=
  d.conditions.findSome? fun c => (Symbol.ofValue c.value).calendarError? ctx

/-- A result, unless the date arithmetic of the domain fails. -/
def unlessCalendarError {α : Type} (ctx : Context) (d : Domain) (result : α) :
    Except CalendarError α :=
  match d.calendarError? ctx with
  | some e => .error e
  | none => .ok result

/-- The domain with its references substituted. -/
def parse (ctx : Context) (d : Domain) : Except CalendarError Domain :=
  d.unlessCalendarError ctx (d.substitute ctx)

/-- The domain with its references resolved. -/
def resolve (ctx : Context) (d : Domain) : Except CalendarError ResolvedDomain :=
  d.unlessCalendarError ctx (d.resolved ctx)

/-- Whether the domain holds in a context. -/
def evaluate (ctx : Context) (d : Domain) : Except CalendarError Bool :=
  d.unlessCalendarError ctx (d.holds ctx)

end Domain

end DomainFilter
