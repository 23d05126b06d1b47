/-
# DomainFilter.Proofs.Verdict.OwnField — a field compared with itself

The condition `[f, "=", "object.f"]` reads one field of the record twice, as operand and through a
reference. Both sides read a related record for what stands for it, but not in the same way: the
operand takes its `id` and is null without one, the reference goes on to its `name`, and to the
string `null` without either.

* §A The condition, and what its two sides read.
* §B A value is equal to itself unless it is not-a-number.
* §C **`evaluate_ownField`** — a field is equal to itself, except a related record that has a name
  and no id: it is equal to itself only if its name reads `null`.

BOUNDARY: a field with a point in its name is no path of its own, and the reference reads another.
-/
import DomainFilter.Domain.Shape
import DomainFilter.Proofs.Verdict.Ordering

namespace DomainFilter

/-! ## §A Both sides of the condition -/

/-- The condition that a field is equal to itself. -/
def ownCondition (field : String) : Condition :=
  ⟨.string field, .eq, .string ("object." ++ field)⟩

/-- The array form of the filter that is only this condition. -/
def Domain.ownFilter (field : String) : Value :=
  .array [.string field, .string "=", .string ("object." ++ field)]

theorem Domain.ofValue_ownFilter (field : String) :
    ofValue (ownFilter field) = ⟨[⟨[ownCondition field]⟩]⟩ := rfl

/-- A text after `object.` is a path in the object. -/
theorem Symbol.ofText_object (path : String) : ofText ("object." ++ path) = .object path := by
  unfold ofText after?
  rw [String.toList_append]
  show Symbol.object (String.ofList path.toList) = .object path
  rw [String.ofList_toList]

/-- A path without a point is a field. -/
theorem Path.lookup?_of_not_mem {path : String} (h : '.' ∉ path.toList) (record : Record) :
    lookup? record path = Fields.get? path record := by
  rw [lookup?, Text.segments_of_not_mem h, walk?]
  show step? (.object record) path.toList >>= pure = _
  rw [bind_pure, step?, String.ofList_toList]

section

variable {ctx : Context} {field : String} {stored : Value}

theorem calendarError?_ownCondition (ctx : Context) (field : String) :
    (Symbol.ofValue (ownCondition field).value).calendarError? ctx = none := by
  have hsymbol : Symbol.ofValue (ownCondition field).value = .object field :=
    Symbol.ofText_object field
  rw [hsymbol]
  rfl

/-- The operand is what the stored value counts as on that side, the value what it counts as in a
reference. -/
theorem verdictIn_ownCondition (hfield : Fields.get? field ctx.object = some stored)
    (hpath : '.' ∉ field.toList) :
    (ownCondition field).verdictIn ctx
      = Verdict.ofOperator .eq stored.collapseOperand (Symbol.collapseObject stored) := by
  have hresolve : (Symbol.ofText ("object." ++ field)).resolve ctx
      = .resolved (Symbol.collapseObject stored) := by
    rw [Symbol.ofText_object, Symbol.resolve, Symbol.objectValue?, Path.lookup?_of_not_mem hpath,
      hfield]
    rfl
  exact Condition.verdictIn_of_field hfield hresolve

end

/-! ## §B A value beside itself -/

namespace Verdict

/-- **`compare?_self`** — a value is equal to itself unless it is not-a-number. -/
theorem compare?_self {value : Value} (h : value ≠ .number .nan) :
    compare? value value = some .eq := by
  cases value with
  | number x =>
    have hnan : x ≠ .nan := fun hx => h (congrArg Value.number hx)
    have hequals : x.equals x = true := by
      rw [Binary64.equals_self, Binary64.isNaN_eq_false hnan]
      rfl
    exact beq_iff_eq.mp hequals
  | _ => rw [compare?_of_texts (.inl rfl), Text.order_eq_iff.mpr rfl]

end Verdict

/-! ## §C A field beside itself -/

/-- The name of an object that has one and no id. -/
def Value.nameAlone? : Value → Option Value
  | .object fields =>
    match Fields.get? "id" fields with
    | some _ => none
    | none => Fields.get? "name" fields
  | _ => none

/-- The two sides of a stored value are equal, unless it goes by its name alone: then null is beside
the name. -/
theorem Verdict.compare?_ownSides {stored : Value}
    (hnan : stored.collapseOperand ≠ .number .nan) :
    (compare? stored.collapseOperand (Symbol.collapseObject stored) == some .eq)
      = stored.nameAlone?.all (·.text == "null".toList) := by
  cases stored with
  | null => decide +kernel
  | object fields =>
    rw [Value.collapseOperand] at hnan ⊢
    rw [Symbol.collapseObject, Symbol.identity?, Value.nameAlone?]
    cases hid : Fields.get? "id" fields with
    | some id =>
      rw [hid] at hnan
      exact beq_iff_eq.mpr (compare?_self hnan)
    | none =>
      -- the operand is null, which is compared as a text
      cases Fields.get? "name" fields with
      | none => decide +kernel
      | some name =>
        have htexts : compare? .null name = some (Text.order "null".toList name.text) := rfl
        rw [Bool.eq_iff_iff]
        show (compare? .null name == some .eq) = true ↔ (name.text == "null".toList) = true
        rw [beq_iff_eq, beq_iff_eq, htexts, Option.some_inj, Text.order_eq_iff, eq_comm]
  | _ => exact beq_iff_eq.mpr (compare?_self hnan)

namespace Domain

/-- **`evaluate_ownField`** — the filter that a field is equal to itself holds of every record with
the field, not-a-number apart; but of a field that stores a related record with a name and no id it
says whether the name reads `null`. -/
theorem evaluate_ownField {ctx : Context} {field : String} {stored : Value}
    (hfield : Fields.get? field ctx.object = some stored) (hpath : '.' ∉ field.toList)
    (hnan : stored.collapseOperand ≠ .number .nan) :
    (ofValue (ownFilter field)).evaluate ctx
      = .ok (stored.nameAlone?.all (·.text == "null".toList)) := by
  rw [ofValue_ownFilter]
  apply evaluate_singleton (calendarError?_ownCondition ctx field)
  rw [verdictIn_ownCondition hfield hpath]
  exact congrArg some (Verdict.compare?_ownSides hnan)

/-- A deal of a team that is known by its name only, and of a customer with a name and an id. -/
def deal : Context :=
  Records.atYearZero {
    object := [("customer", .object [("id", .number (.ofNat 7)), ("name", .string "Acme")]),
      ("team", .object [("name", .string "Sales")])] }

/-- The customer is equal to itself, the team is not. -/
theorem evaluate_ownField_of_deal :
    (ofValue (ownFilter "customer")).evaluate deal = .ok true
      ∧ (ofValue (ownFilter "team")).evaluate deal = .ok false := by
  have hcustomer : Fields.get? "customer" deal.object
      = some (.object [("id", .number (.ofNat 7)), ("name", .string "Acme")]) := rfl
  have hteam : Fields.get? "team" deal.object = some (.object [("name", .string "Sales")]) := rfl
  constructor
  · exact evaluate_ownField hcustomer (by decide) nofun
  · exact evaluate_ownField hteam (by decide) nofun

/-- The team has a name and no id: as operand it is null, as a reference its name. -/
theorem ownField_fails_by_name :
    ¬ ∀ (ctx : Context) (field : String) (stored : Value),
        Fields.get? field ctx.object = some stored → '.' ∉ field.toList → stored.hasNaN = false →
        (ofValue (ownFilter field)).evaluate ctx = .ok true := by
  intro h
  have hteam := h deal "team" (.object [("name", .string "Sales")]) rfl (by decide) rfl
  have hfalse : (ofValue (ownFilter "team")).evaluate deal = .ok false := rfl
  rw [hfalse] at hteam
  cases hteam

end Domain

end DomainFilter
