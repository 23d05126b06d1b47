/-
# DomainFilter.Proofs.Verdict.Membership — membership and equality

`in`, `not in` and `contains` look for an equal value among the items of a list, and take values as
they are: a number is no text, and an array of one item is not the item. `==` compares numbers or
texts, in which some of that is lost. So membership is the narrower of the two: what is in a list is
`==` to one of its items.

* §A The operators as searches in a list.
* §B Equal values are `==`: they have the same text, and no not-a-number in them.
* §C **`membership_refines_equality`**.

BOUNDARY: not the other way round. The array of the number one is `==` to the number, by its text,
and in no list of numbers.
-/
import DomainFilter.Proofs.Verdict.OwnField

namespace DomainFilter.Verdict

/-! ## §A Searches -/

section

variable {operand value : Value} {items : List Value}

theorem memberOf_iff : operand.memberOf items = true ↔ ∃ item ∈ items, item.equals operand = true :=
  List.any_eq_true

theorem ofOperator_isIn_iff :
    ofOperator .isIn operand value = some true ↔
      ∃ item ∈ asList value, item.equals operand = true :=
  Option.some_inj.trans memberOf_iff

theorem ofOperator_notIn_iff :
    ofOperator .notIn operand value = some true ↔
      ∀ item ∈ asList value, item.equals operand = false := by
  refine Option.some_inj.trans ?_
  rw [Bool.not_eq_true', Bool.eq_false_iff, ne_eq, memberOf_iff]
  simp

end

/-! ## §B Equal values -/

/-- What is equal to something is not not-a-number. -/
theorem ne_nan_of_equals {a b : Value} (h : a.equals b = true) : a ≠ .number .nan := by
  rintro rfl
  have hnan := (Value.equals_iff.mp h).2
  cases hnan

/-- **`compare?_of_equals`** — equal values are `==`, whatever is nested in them: up to the signs of
zeros they are the same value, and that is beside itself. -/
theorem compare?_of_equals {operand value : Value} (h : operand.equals value = true) :
    compare? operand value = some .eq := by
  have hsame : operand.unsignZeros = value.unsignZeros := (Value.equals_iff.mp h).1
  calc compare? operand value
      = compare? operand.unsignZeros value.unsignZeros := (compare?_unsignZeros _ _).symm
    _ = compare? operand.unsignZeros operand.unsignZeros := by rw [hsame]
    _ = compare? operand operand := compare?_unsignZeros _ _
    _ = some .eq := compare?_self (ne_nan_of_equals h)

theorem ofOperator_eqEq_of_equals {operand item : Value} (h : item.equals operand = true) :
    ofOperator .eqEq operand item = some true :=
  ofOperator_eqEq_iff.mpr (compare?_of_equals (Value.equals_symm h))

/-! ## §C Membership -/

/-- **`membership_refines_equality`** — what is `in` a value is `==` to one of the items of the value,
or to the value itself if that is no array. What is `==` to none of them is `not in` it. And an array
`contains` just what is `in` it. -/
theorem membership_refines_equality (operand value : Value) :
    (ofOperator .isIn operand value = some true →
        ∃ item ∈ asList value, ofOperator .eqEq operand item = some true)
      ∧ ((∀ item ∈ asList value, ofOperator .eqEq operand item = some false) →
        ofOperator .notIn operand value = some true)
      ∧ ∀ items : List Value,
          ofOperator .contains (.array items) operand
            = ofOperator .isIn operand (.array items) := by
  refine ⟨?_, ?_, ?_⟩
  · intro hmember
    obtain ⟨item, hitem, hequals⟩ := ofOperator_isIn_iff.mp hmember
    exact ⟨item, hitem, ofOperator_eqEq_of_equals hequals⟩
  · intro hnone
    apply ofOperator_notIn_iff.mpr
    intro item hitem
    rw [Bool.eq_false_iff]
    intro hequals
    -- an equal item would be `==`
    have hverdict := ofOperator_eqEq_of_equals hequals
    rw [hnone item hitem] at hverdict
    cases hverdict
  · intro items
    rfl

/-- The array of one is `==` to the one, and not in the list of it. -/
example :
    ofOperator .eqEq (.array [.number (.ofNat 1)]) (.number (.ofNat 1)) = some true
      ∧ ofOperator .isIn (.array [.number (.ofNat 1)]) (.array [.number (.ofNat 1)])
        = some false := by
  decide +kernel

/-- A zero without a sign and a null. -/
def zeroAndNull : Value := .array [.number .zero, .null]

/-- Not-a-number, and a zero with a sign and a null. -/
def listed : Value :=
  .array [.number .nan, .array [.number (.signed true Binary64.zeroMagnitude), .null]]

/-- A zero is found in a list by a zero of the other sign, and is `==` to it. Not-a-number is `==` to
no item, not to itself either, and so it is not in the list. -/
theorem membership_refines_equality_listed :
    ofOperator .isIn zeroAndNull listed = some true
      ∧ (∃ item ∈ asList listed, ofOperator .eqEq zeroAndNull item = some true)
      ∧ (∀ item ∈ asList listed, ofOperator .eqEq (.number .nan) item = some false)
      ∧ ofOperator .notIn (.number .nan) listed = some true := by
  have hmember : ofOperator .isIn zeroAndNull listed = some true := by decide +kernel
  have hnone : ∀ item ∈ asList listed, ofOperator .eqEq (.number .nan) item = some false := by
    decide +kernel
  refine ⟨hmember, ?_, hnone, ?_⟩
  · exact (membership_refines_equality zeroAndNull listed).1 hmember
  · exact (membership_refines_equality (.number .nan) listed).2.1 hnone

end DomainFilter.Verdict
