/-
# DomainFilter.Proofs.Verdict.Negation — operators and their negations

The negation of an operator is an operator of its own: `!=` and `<>` beside `=` and `==`, `not in`
beside `in`, `is not` beside `is`. A filter by the one and a filter by the other have to share out
the records between them, not-a-number and nested values included.

* §A The pairs, and **`ofOperator_of_negatedBy`** — the one says the negation of what the other says.
* §B Which operators of a pair can say nothing: only `is` and `is not`, of an operand that is no
  number beside a value that asks neither for truth nor for emptiness.
* §C **`negated_operators_split`** — of two domains of one condition that differ in the operators of a
  pair both hold where the condition says nothing, and just one everywhere else.

BOUNDARY: the ordering operators are no pairs. `<` and `>=` of a number beside not-a-number, and of
texts, can both say false.
-/
import DomainFilter.Proofs.Verdict.Dependence

namespace DomainFilter

/-! ## §A Pairs of operators -/

/-- The pairs of an operator and a negation of it. -/
inductive Operator.NegatedBy : Operator → Operator → Prop
  | eq_ne : NegatedBy .eq .ne
  | eq_ltGt : NegatedBy .eq .ltGt
  | eqEq_ne : NegatedBy .eqEq .ne
  | eqEq_ltGt : NegatedBy .eqEq .ltGt
  | isIn_notIn : NegatedBy .isIn .notIn
  | is_isNot : NegatedBy .is .isNot

section

variable {plain negated : Operator}

/-- The canonical operators of a pair are a pair, also where a numeric operand turns `is` and `is not`
into equality and inequality. -/
theorem Operator.NegatedBy.canonical (h : plain.NegatedBy negated) (numericOperand : Bool) :
    (plain.canonical numericOperand).NegatedBy (negated.canonical numericOperand) := by
  cases h with
  | is_isNot =>
    cases numericOperand with
    | true => exact .eqEq_ne
    | false => exact .is_isNot
  | isIn_notIn => exact .isIn_notIn
  | _ => exact .eqEq_ne

namespace Verdict

theorem ofCanonical_of_negatedBy (h : plain.NegatedBy negated) (operand value : Value) :
    ofCanonical negated operand value = (ofCanonical plain operand value).map (!·) := by
  cases h <;> rfl

/-- **`ofOperator_of_negatedBy`** — the negation says true where the operator says false and false
where it says true, and nothing where it says nothing. -/
theorem ofOperator_of_negatedBy (h : plain.NegatedBy negated) (operand value : Value) :
    ofOperator negated operand value = (ofOperator plain operand value).map (!·) :=
  ofCanonical_of_negatedBy (h.canonical operand.isNumber) operand value

/-! ## §B Saying nothing -/

theorem isCheck_eq_none_iff {operand value : Value} :
    isCheck operand value = none ↔ asksTruth value = false ∧ asksEmptiness value = false := by
  unfold isCheck
  cases asksTruth value <;> cases asksEmptiness value <;> simp

/-- An operator with a negation says nothing only if it is `is`, and then only if the operand is no
number and the value asks it nothing. -/
theorem ofOperator_eq_none_iff (h : plain.NegatedBy negated) {operand value : Value} :
    ofOperator plain operand value = none ↔
      plain = .is ∧ operand.isNumber = false ∧ asksTruth value = false
        ∧ asksEmptiness value = false := by
  cases h with
  | is_isNot =>
    rw [ofOperator]
    cases operand.isNumber with
    | true => exact iff_of_false nofun nofun
    | false =>
      show isCheck operand value = none ↔ _
      rw [isCheck_eq_none_iff]
      simp
  | _ => exact iff_of_false nofun nofun

end Verdict

end

/-! ## §C Domains of one condition -/

/-- Of two answers both are true exactly if the condition is skipped, and otherwise just one is. -/
def SplitUnless (skipped : Prop) (first second : Bool) : Prop :=
  (first = true ∧ second = true ↔ skipped) ∧ (¬ skipped → second = !first)

/-- What says nothing counts as true, and so does its negation. -/
theorem splitUnless_getD (said : Option Bool) :
    SplitUnless (said = none) (said.getD true) ((said.map (!·)).getD true) := by
  unfold SplitUnless
  rcases said with - | - | - <;> simp

namespace Domain

open Verdict

/-- **`negated_operators_split`** — an operator and its negation say opposite things of every operand
and every value, or both nothing, which of the pairs only `is` and `is not` do. A domain of one
condition, tested or evaluated in a context that has what its value refers to, is true under both
operators of a pair exactly if the condition is skipped, and otherwise under just one of them. -/
theorem negated_operators_split {plain negated : Operator} (h : plain.NegatedBy negated) :
    (∀ operand value : Value,
        ofOperator negated operand value = (ofOperator plain operand value).map (!·)
          ∧ (ofOperator plain operand value = none ↔
              plain = .is ∧ operand.isNumber = false ∧ asksTruth value = false
                ∧ asksEmptiness value = false))
      ∧ (∀ operand value : Value,
          SplitUnless (ofOperator plain operand value = none)
            (single ⟨operand, plain, value⟩).test (single ⟨operand, negated, value⟩).test)
      ∧ ∀ (ctx : Context) (operand value found : Value),
          (Symbol.ofValue value).calendarError? ctx = none →
          ((⟨operand, plain, value⟩ : Condition).resolved ctx).value = some found →
          ∃ first second : Bool,
            (single ⟨operand, plain, value⟩).evaluate ctx = .ok first
              ∧ (single ⟨operand, negated, value⟩).evaluate ctx = .ok second
              ∧ SplitUnless (ofOperator plain (Record.operand ctx.object operand) found = none)
                  first second := by
  refine ⟨?_, ?_, ?_⟩
  · intro operand value
    exact ⟨ofOperator_of_negatedBy h operand value, ofOperator_eq_none_iff h⟩
  · intro operand value
    rw [test_eq_holdsBy, test_eq_holdsBy, holdsBy_single, holdsBy_single]
    show SplitUnless _ ((ofOperator plain operand value).getD true)
      ((ofOperator negated operand value).getD true)
    rw [ofOperator_of_negatedBy h]
    exact splitUnless_getD _
  · intro ctx operand value found hdate hfound
    -- the value is resolved the same way under both operators
    have hplain : (⟨operand, plain, value⟩ : Condition).verdictIn ctx
        = ofOperator plain (Record.operand ctx.object operand) found :=
      Condition.verdictIn_of_value hfound
    have hnegated : (⟨operand, negated, value⟩ : Condition).verdictIn ctx
        = (ofOperator plain (Record.operand ctx.object operand) found).map (!·) := by
      rw [← ofOperator_of_negatedBy h]
      exact Condition.verdictIn_of_value hfound
    refine ⟨_, _, evaluate_single hdate, evaluate_single hdate, ?_⟩
    rw [hplain, hnegated]
    exact splitUnless_getD _

/-- An order with tags, for a user in some mood. -/
def moodyOrder : Context :=
  Records.atYearZero
    { object := [("tags", .array [.array [.number .nan]])], user := [("mood", .string "set")] }

/-- The tags are, and are not, a mood that asks for neither truth nor emptiness. A list of
not-a-number is in no list, so it is not in the tags, where it stands. -/
theorem negated_operators_split_of_moodyOrder :
    Operator.NegatedBy .is .isNot ∧ Operator.NegatedBy .isIn .notIn
      ∧ (Symbol.ofValue (.string "user.mood")).calendarError? moodyOrder = none
      ∧ ((⟨.string "tags", .is, .string "user.mood"⟩ : Condition).resolved moodyOrder).value
        = some (.string "set")
      ∧ (single ⟨.string "tags", .is, .string "user.mood"⟩).evaluate moodyOrder = .ok true
      ∧ (single ⟨.string "tags", .isNot, .string "user.mood"⟩).evaluate moodyOrder = .ok true
      ∧ ofOperator .notIn (.array [.number .nan]) (.array [.array [.number .nan]])
        = some true := by
  have hdate : (Symbol.ofValue (.string "user.mood")).calendarError? moodyOrder = none := rfl
  have hfound : ((⟨.string "tags", .is, .string "user.mood"⟩ : Condition).resolved moodyOrder).value
      = some (.string "set") := rfl
  obtain ⟨first, second, hfirst, hsecond, hsplit, -⟩ :=
    (negated_operators_split .is_isNot).2.2 moodyOrder _ _ _ hdate hfound
  have hskipped : ofOperator .is (Record.operand moodyOrder.object (.string "tags")) (.string "set")
      = none := rfl
  obtain ⟨rfl, rfl⟩ := hsplit.mpr hskipped
  refine ⟨.is_isNot, .isIn_notIn, hdate, hfound, hfirst, hsecond, ?_⟩
  exact ((negated_operators_split .isIn_notIn).1 _ _).1

end Domain

end DomainFilter
