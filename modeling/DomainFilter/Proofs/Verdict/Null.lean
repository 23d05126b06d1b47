/-
# DomainFilter.Proofs.Verdict.Null — null values and the string `null`

The array form writes a null value as the string `null`. The two have the same text, neither says
a number and both ask `is` for emptiness, so most operators cannot tell them apart. The three that
look for a value among the items of an array can: null is an item of an array of nulls, the string
is not.

* §A `Operator.isMembership`, and **`ofOperator_null`** — every other operator says the same of
  both.
* §B `Condition.soughtNullAsText` rewrites just the conditions that can tell, and for a supported
  operator that says the same as writing the condition and reading it back.
-/
import DomainFilter.Proofs.Domain.Reread
import DomainFilter.Proofs.Verdict.Clauses

namespace DomainFilter

/-! ## §A Operators -/

/-- The operators that look for a value among the items of an array. -/
def Operator.isMembership : Operator → Bool
  | .isIn | .notIn | .contains => true
  | _ => false

/-- One of the fifteen operators that have a token of their own. -/
def Operator.isSupported : Operator → Bool
  | .unsupported _ => false
  | _ => true

theorem Operator.isDisguised_of_isSupported {operator : Operator}
    (h : operator.isSupported = true) : operator.isDisguised = false := by
  cases operator with
  | unsupported token => cases h
  | _ => rfl

namespace Verdict

theorem compare?_null (operand : Value) :
    compare? operand .null = compare? operand (.string "null") := by
  have hnull : Value.numeric? .null = none := rfl
  have htext : Value.numeric? (.string "null") = none := by decide
  unfold compare?
  rw [hnull, htext]
  cases operand <;> rfl

/-- Null counts as zero, the string says no number and so counts as zero too. -/
theorem bound_null : bound .null = bound (.string "null") := by
  have htext : Value.toNumber (.string "null") = .nan := by decide
  unfold bound
  rw [htext]
  rfl

/-- Apart from the membership operators the canonical ones read a value only as a text, as a number
or as a question of `is`. -/
theorem ofCanonical_null {operator : Operator} (h : operator.isMembership = false)
    (operand : Value) :
    ofCanonical operator operand .null = ofCanonical operator operand (.string "null") := by
  cases operator with
  | isIn => cases h
  | notIn => cases h
  | contains => cases h
  | gt => simp only [ofCanonical, bound_null]
  | lt => simp only [ofCanonical, bound_null]
  | like => rfl
  | ilike => rfl
  | is => rfl
  | isNot => rfl
  | unsupported token => rfl
  | _ => simp only [ofCanonical, compare?_null]

/-- **`ofOperator_null`** — outside membership null and the string `null` are the same value. -/
theorem ofOperator_null {operator : Operator} (h : operator.isMembership = false)
    (operand : Value) :
    ofOperator operator operand .null = ofOperator operator operand (.string "null") := by
  apply ofCanonical_null
  -- becoming canonical makes no operator one of membership
  cases operator with
  | isIn => cases h
  | notIn => cases h
  | contains => cases h
  | is => cases operand.isNumber <;> rfl
  | isNot => cases operand.isNumber <;> rfl
  | _ => rfl

end Verdict

/-! ## §B Conditions -/

namespace Condition

/-- A null to look for among items becomes the string `null`; every other condition stays. -/
def soughtNullAsText (c : Condition) : Condition :=
  if c.value.isNull && c.operator.isMembership then { c with value := .string "null" } else c

theorem ofValue_nullText : Symbol.ofValue (.string "null") = .literal := by decide

theorem ofValue_writtenValue (value : Value) :
    Symbol.ofValue (writtenValue value) = Symbol.ofValue value := by
  cases value with
  | null => exact ofValue_nullText
  | _ => rfl

theorem soughtNullAsText_of_ne_null {c : Condition} (h : c.value ≠ .null) :
    c.soughtNullAsText = c := by
  obtain ⟨operand, operator, value⟩ := c
  cases value with
  | null => exact absurd rfl h
  | _ => rfl

theorem soughtNullAsText_of_not_membership {c : Condition} (h : c.operator.isMembership = false) :
    c.soughtNullAsText = c := by
  simp [soughtNullAsText, h]

theorem soughtNullAsText_of_membership {c : Condition} (hvalue : c.value = .null)
    (h : c.operator.isMembership = true) :
    c.soughtNullAsText = { c with value := .string "null" } := by
  simp [soughtNullAsText, hvalue, h, Value.isNull]

theorem ofValue_soughtNullAsText (c : Condition) :
    Symbol.ofValue c.soughtNullAsText.value = Symbol.ofValue c.value := by
  by_cases hvalue : c.value = .null
  · cases hmember : c.operator.isMembership with
    | false => rw [soughtNullAsText_of_not_membership hmember]
    | true =>
      rw [soughtNullAsText_of_membership hvalue hmember, hvalue]
      exact ofValue_nullText
  · rw [soughtNullAsText_of_ne_null hvalue]

/-- A condition without a reference says what its operator says of its operand and its value. -/
theorem verdictIn_of_literal {ctx : Context} {c : Condition}
    (h : Symbol.ofValue c.value = .literal) :
    c.verdictIn ctx
      = Verdict.ofOperator c.operator (Record.operand ctx.object c.operand) c.value := by
  simp only [verdictIn, resolved, h, Symbol.resolve]
  rfl

theorem reread_of_supported {c : Condition} (h : c.operator.isSupported = true) :
    c.reread = { c with value := writtenValue c.value } := by
  rw [reread, Operator.ofToken_token (Operator.isDisguised_of_isSupported h)]

/-- **`verdictIn_reread`** — with a supported operator a condition that is written and read back
says what it says with a sought null as text. -/
theorem verdictIn_reread {ctx : Context} {c : Condition} (h : c.operator.isSupported = true) :
    c.reread.verdictIn ctx = c.soughtNullAsText.verdictIn ctx := by
  rw [reread_of_supported h]
  by_cases hvalue : c.value = .null
  · cases hmember : c.operator.isMembership with
    | true => rw [soughtNullAsText_of_membership hvalue hmember, hvalue, writtenValue]
    | false =>
      -- the null was replaced, but its operator cannot tell
      have hliteral : Symbol.ofValue c.value = .literal := by rw [hvalue]; rfl
      rw [soughtNullAsText_of_not_membership hmember, verdictIn_of_literal hliteral, hvalue,
        writtenValue, verdictIn_of_literal ofValue_nullText]
      exact (Verdict.ofOperator_null hmember _).symm
  · rw [soughtNullAsText_of_ne_null hvalue, writtenValue_of_ne_null hvalue]

end Condition

/-- A domain with each null to look for among items as the string `null`. -/
def Domain.soughtNullsAsText (d : Domain) : Domain := d.mapConditions Condition.soughtNullAsText

namespace Domain

theorem soughtNullsAsText_eq_self {d : Domain}
    (h : ∀ c ∈ d.conditions, c.value = .null → c.operator.isMembership = false) :
    d.soughtNullsAsText = d := by
  refine mapConditions_eq_self_iff.mpr ?_
  intro c hc
  by_cases hvalue : c.value = .null
  · exact Condition.soughtNullAsText_of_not_membership (h c hc hvalue)
  · exact Condition.soughtNullAsText_of_ne_null hvalue

/-- Null is no reference and neither is the string, so reading back keeps what goes wrong with the
dates. -/
theorem calendarError?_reread (ctx : Context) (d : Domain) :
    d.reread.calendarError? ctx = d.calendarError? ctx :=
  calendarError?_mapConditions (fun c _ => Condition.ofValue_writtenValue c.value) ctx

theorem datesInCalendar_reread {ctx : Context} {d : Domain} :
    d.reread.DatesInCalendar ctx ↔ d.DatesInCalendar ctx :=
  datesInCalendar_mapConditions fun c _ => Condition.ofValue_writtenValue c.value

theorem evaluate_reread_eq_ok_true_iff {ctx : Context} {d : Domain}
    (h : ∀ c ∈ d.conditions, c.operator.isSupported = true) :
    d.reread.evaluate ctx = .ok true ↔ d.soughtNullsAsText.evaluate ctx = .ok true := by
  have hsought : d.soughtNullsAsText.DatesInCalendar ctx ↔ d.DatesInCalendar ctx :=
    datesInCalendar_mapConditions fun c _ => c.ofValue_soughtNullAsText
  have hsame : d.reread.holdsBy (Condition.verdictIn ctx)
      = d.soughtNullsAsText.holdsBy (Condition.verdictIn ctx) := by
    rw [reread, soughtNullsAsText, holdsBy_mapConditions, holdsBy_mapConditions]
    exact holdsBy_congr fun c hc => Condition.verdictIn_reread (h c hc)
  rw [evaluate_eq_ok_iff, evaluate_eq_ok_iff, datesInCalendar_reread, hsought, hsame]

end Domain

end DomainFilter
