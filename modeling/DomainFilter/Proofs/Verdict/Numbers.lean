/-
# DomainFilter.Proofs.Verdict.Numbers — a number beside a value that says one

Where the operand is a number and the value is one or a text that holds a numeral, ten operators ask
for the order of the two. They get it on different ways: `<` and `>` convert both sides and put zero
for what says no number, the other eight read the value and refuse what says none, and `is` and
`is not` become equality and inequality because the operand is a number. All of them end at the same
order, that of the numbers on their line.

* §A Values that say a number, and what each of the ten operators asks of an order.
* §B **`ofOperator_of_orders`** — where both ways give one order, an operator says what it asks of it.
* §C **`comparisons_of_numbers`** — that order is the one of the places on the line, and of `<`, `==`
  and `>` exactly one holds.

BOUNDARY: not-a-number, as operand, as value or as the text `nan`, is in no order with anything.
-/
import DomainFilter.Proofs.Number.Line
import DomainFilter.Proofs.Verdict.Ordering

namespace DomainFilter

/-! ## §A Values and questions -/

/-- A value is a number, or a text that without white space at its ends is a numeral of it. -/
inductive Value.Says : Value → Binary64 → Prop
  | number (y : Binary64) : Says (.number y) y
  | numeral {s : String} {y : Binary64} (hnonempty : Text.trim s.toList ≠ [])
      (hread : Numeral.read? (Text.trim s.toList) = some y) : Says (.string s) y

theorem Value.Says.numeric?_eq {value : Value} {y : Binary64} (h : value.Says y) :
    value.numeric? = some y := by
  cases h with
  | number => rfl
  | numeral _ hread => exact hread

/-- What an operator asks of the order of two numbers, if it asks for their order at all. -/
def Operator.orderTest? : Operator → Option (Ordering → Bool)
  | .eq | .eqEq | .is => some Ordering.isEq
  | .ne | .ltGt | .isNot => some Ordering.isNe
  | .lt => some Ordering.isLT
  | .le => some Ordering.isLE
  | .gt => some Ordering.isGT
  | .ge => some Ordering.isGE
  | .like | .ilike | .isIn | .notIn | .contains | .unsupported _ => none

namespace Verdict

/-! ## §B Both ways to an order -/

section

variable {operand value : Value} {order : Ordering}

/-- `<` and `>` of what is in some order as numbers. -/
theorem ofOperator_strict_of_numberOrder? (h : numberOrder? operand value = some order) :
    ofOperator .lt operand value = some order.isLT
      ∧ ofOperator .gt operand value = some order.isGT := by
  have hswap : (bound value).compare? operand.toNumber = some order.swap := by
    rw [← Binary64.compare?_swap, ← numberOrder?, h]
    rfl
  show some (operand.toNumber.compare? (bound value) == some .lt) = _
    ∧ some ((bound value).compare? operand.toNumber == some .lt) = _
  rw [← numberOrder?, h, hswap]
  cases order <;> decide

/-- **`ofOperator_of_orders`** — an operator says of a number what it asks of the order, if the
comparison of numbers or texts and the comparison of numbers alone give the same one. -/
theorem ofOperator_of_orders {operator : Operator} {test : Ordering → Bool}
    (hnumber : operand.isNumber = true) (hcompare : compare? operand value = some order)
    (hnumbers : numberOrder? operand value = some order)
    (htest : operator.orderTest? = some test) :
    ofOperator operator operand value = some (test order) := by
  have hequal := ofOperator_eqEq_of_compare? hcompare
  have hunequal := ofOperator_ne_of_compare? hcompare
  obtain ⟨hless, hgreater⟩ := ofOperator_strict_of_numberOrder? hnumbers
  cases operator with
  | eq => cases htest; exact hequal
  | eqEq => cases htest; exact hequal
  | ne => cases htest; exact hunequal
  | ltGt => cases htest; exact hunequal
  | lt => cases htest; exact hless
  | gt => cases htest; exact hgreater
  | le => cases htest; exact ofOperator_le_of_compare? hcompare
  | ge => cases htest; exact ofOperator_ge_of_compare? hcompare
  | is =>
    -- of a number `is` asks for equality, and `is not` for inequality
    cases htest
    rw [ofOperator, hnumber]
    exact hequal
  | isNot =>
    cases htest
    rw [ofOperator, hnumber]
    exact hunequal
  | _ => cases htest

end

/-! ## §C The order of numbers -/

/-- The operator among `<`, `==` and `>` that asks for an order and no other. -/
def outcome : Ordering → Operator
  | .lt => .lt
  | .eq => .eqEq
  | .gt => .gt

/-- The operators that ask for one order each hold of that order only. -/
theorem orderTest?_outcome (asked : Ordering) :
    ∃ test, (outcome asked).orderTest? = some test
      ∧ ∀ order, test order = true ↔ order = asked := by
  cases asked with
  | lt => exact ⟨Ordering.isLT, rfl, fun order => by cases order <;> decide⟩
  | eq => exact ⟨Ordering.isEq, rfl, fun order => by cases order <;> decide⟩
  | gt => exact ⟨Ordering.isGT, rfl, fun order => by cases order <;> decide⟩

/-- **`comparisons_of_numbers`** — beside a value that says a number, the ten operators say of a
number what they ask of the order of the two on the line, not-a-number apart; so the operand is less
than the value, equal to it or greater, and only one of these. -/
theorem comparisons_of_numbers {x y : Binary64} {value : Value} (hx : x ≠ .nan) (hy : y ≠ .nan)
    (hvalue : value.Says y) :
    ∃ a b, x.onLine? = some a ∧ y.onLine? = some b
      ∧ (∀ operator test, operator.orderTest? = some test →
          ofOperator operator (.number x) value = some (test (compare a b)))
      ∧ ∃! operator, operator ∈ [Operator.lt, .eqEq, .gt]
          ∧ ofOperator operator (.number x) value = some true := by
  obtain ⟨a, ha⟩ := Binary64.exists_onLine? hx
  obtain ⟨b, hb⟩ := Binary64.exists_onLine? hy
  have hnumeric : value.numeric? = some y := hvalue.numeric?_eq
  have hcompare : compare? (.number x) value = some (compare a b) := by
    rw [compare?_of_numeric? hnumeric, Binary64.compare?_of_onLine? ha hb]
  have hnumbers : numberOrder? (.number x) value = some (compare a b) := by
    rw [numberOrder?_of_numeric? hnumeric hy, hcompare]
  have hverdict : ∀ operator test, operator.orderTest? = some test →
      ofOperator operator (.number x) value = some (test (compare a b)) :=
    fun operator test htest => ofOperator_of_orders rfl hcompare hnumbers htest
  refine ⟨a, b, ha, hb, hverdict, outcome (compare a b), ⟨?_, ?_⟩, ?_⟩
  · cases compare a b <;> decide
  · obtain ⟨test, htest, hiff⟩ := orderTest?_outcome (compare a b)
    rw [hverdict _ test htest, (hiff _).mpr rfl]
  · -- an operator that holds asks for the order that there is
    rintro operator ⟨hmem, hholds⟩
    obtain ⟨asked, rfl⟩ : ∃ asked, outcome asked = operator := by
      simp only [List.mem_cons, List.not_mem_nil, or_false] at hmem
      rcases hmem with rfl | rfl | rfl
      · exact ⟨.lt, rfl⟩
      · exact ⟨.eq, rfl⟩
      · exact ⟨.gt, rfl⟩
    obtain ⟨test, htest, hiff⟩ := orderTest?_outcome asked
    rw [hverdict _ test htest, Option.some_inj] at hholds
    rw [(hiff _).mp hholds]

/-- Nine is at most the text of ten, and the negative zero is the text of zero. -/
theorem comparisons_of_nine_and_zero :
    (Binary64.ofNat 9 ≠ .nan ∧ Binary64.ofNat 10 ≠ .nan ∧ Value.Says (.string " 10 ") (.ofNat 10)
        ∧ ofOperator .le (.number (.ofNat 9)) (.string " 10 ") = some true)
      ∧ Binary64.signed true Binary64.zeroMagnitude ≠ .nan ∧ Binary64.zero ≠ .nan
        ∧ Value.Says (.string "0.0") .zero
        ∧ ofOperator .is (.number (.signed true Binary64.zeroMagnitude)) (.string "0.0")
          = some true := by
  have hnine : Binary64.ofNat 9 ≠ .nan := nofun
  have hten : Binary64.ofNat 10 ≠ .nan := nofun
  have hnegative : Binary64.signed true Binary64.zeroMagnitude ≠ .nan := nofun
  have hzero : Binary64.zero ≠ .nan := nofun
  have hsaysTen : Value.Says (.string " 10 ") (.ofNat 10) :=
    .numeral (by decide +kernel) (by decide +kernel)
  have hsaysZero : Value.Says (.string "0.0") .zero :=
    .numeral (by decide +kernel) (by decide +kernel)
  have hless : (Binary64.ofNat 9).compare? (.ofNat 10) = some .lt := by decide +kernel
  have hsame : (Binary64.signed true Binary64.zeroMagnitude).compare? .zero = some .eq := by
    decide +kernel
  refine ⟨⟨hnine, hten, hsaysTen, ?_⟩, hnegative, hzero, hsaysZero, ?_⟩
  · obtain ⟨a, b, ha, hb, hverdict, -⟩ := comparisons_of_numbers hnine hten hsaysTen
    rw [Binary64.compare?_of_onLine? ha hb, Option.some_inj] at hless
    rw [hverdict .le _ rfl, hless]
    rfl
  · obtain ⟨a, b, ha, hb, hverdict, -⟩ := comparisons_of_numbers hnegative hzero hsaysZero
    rw [Binary64.compare?_of_onLine? ha hb, Option.some_inj] at hsame
    rw [hverdict .is _ rfl, hsame]
    rfl

end Verdict

end DomainFilter
