/-
# DomainFilter.Proofs.Verdict.Ordering — two orders behind the ordering operators

`<` and `>` always compare numbers: the operand and the value are converted, and a value that says
no number counts as zero. `<=`, `>=` and `==` compare numbers only if the operand is one and the
value says one, and compare texts otherwise. So `<=` is `<` or `==` where the two orders agree.

* §A The five operators by the two orders, and each law as an agreement of them.
* §B Where the operand is a number and the value says one the two orders are the same, unless that
  is not-a-number.
* §C **`ordering_laws_iff`** — for every operand and value, whether each law holds. Texts that say no
  number, dates among them, keep the laws only beside an equal text.
-/
import DomainFilter.Proofs.Verdict.Equality

namespace DomainFilter.Verdict

/-! ## §A The two orders -/

/-- The order of the numbers that `<` and `>` compare; none if the operand converts to not-a-number,
as a text does that says no number. -/
def numberOrder? (operand value : Value) : Option Ordering :=
  operand.toNumber.compare? (bound value)

/-- `<=` says true of the operand and the value exactly if `<` or `==` does. -/
def LeIsLtOrEq (operand value : Value) : Prop :=
  ofOperator .le operand value = some true ↔
    ofOperator .lt operand value = some true ∨ ofOperator .eqEq operand value = some true

/-- `>=` says true of the operand and the value exactly if `>` or `==` does. -/
def GeIsGtOrEq (operand value : Value) : Prop :=
  ofOperator .ge operand value = some true ↔
    ofOperator .gt operand value = some true ∨ ofOperator .eqEq operand value = some true

section

variable {operand value : Value}

theorem ofOperator_lt_iff :
    ofOperator .lt operand value = some true ↔ numberOrder? operand value = some .lt :=
  Option.some_inj.trans Binary64.less_iff

theorem ofOperator_gt_iff :
    ofOperator .gt operand value = some true ↔ numberOrder? operand value = some .gt :=
  Option.some_inj.trans Binary64.less_swap_iff

theorem ofOperator_eqEq_iff :
    ofOperator .eqEq operand value = some true ↔ compare? operand value = some .eq :=
  Option.some_inj.trans beq_iff_eq

theorem ofOperator_le_iff :
    ofOperator .le operand value = some true ↔
      compare? operand value = some .lt ∨ compare? operand value = some .eq := by
  refine Option.some_inj.trans ?_
  rw [Bool.or_eq_true, beq_iff_eq, beq_iff_eq]

theorem ofOperator_ge_iff :
    ofOperator .ge operand value = some true ↔
      compare? operand value = some .gt ∨ compare? operand value = some .eq := by
  refine Option.some_inj.trans ?_
  rw [Bool.or_eq_true, beq_iff_eq, beq_iff_eq]

/-- On sides that are in some order `==` asks whether they are equal. -/
theorem ofOperator_eqEq_of_compare? {order : Ordering} (h : compare? operand value = some order) :
    ofOperator .eqEq operand value = some order.isEq := by
  show some (compare? operand value == some .eq) = _
  rw [h]
  cases order <;> rfl

theorem ofOperator_ne_of_compare? {order : Ordering} (h : compare? operand value = some order) :
    ofOperator .ne operand value = some order.isNe := by
  show some (compare? operand value != some .eq) = _
  rw [h]
  cases order <;> rfl

/-- `<=` asks for an operand that does not come after the value. -/
theorem ofOperator_le_of_compare? {order : Ordering} (h : compare? operand value = some order) :
    ofOperator .le operand value = some order.isLE := by
  show some (compare? operand value == some .lt || compare? operand value == some .eq) = _
  rw [h]
  cases order <;> rfl

/-- `>=` asks for an operand that does not come before it. -/
theorem ofOperator_ge_of_compare? {order : Ordering} (h : compare? operand value = some order) :
    ofOperator .ge operand value = some order.isGE := by
  show some (compare? operand value == some .gt || compare? operand value == some .eq) = _
  rw [h]
  cases order <;> rfl

theorem or_iff_or_same_iff {p q e : Prop} : (p ∨ e ↔ q ∨ e) ↔ e ∨ (p ↔ q) := by
  by_cases he : e
  · simp [he]
  · simp [he]

/-- Unless the two sides are equal, the law asks that both orders put the operand first or neither
does. -/
theorem leIsLtOrEq_iff :
    LeIsLtOrEq operand value ↔
      compare? operand value = some .eq
        ∨ (compare? operand value = some .lt ↔ numberOrder? operand value = some .lt) := by
  rw [LeIsLtOrEq, ofOperator_le_iff, ofOperator_lt_iff, ofOperator_eqEq_iff, or_iff_or_same_iff]

theorem geIsGtOrEq_iff :
    GeIsGtOrEq operand value ↔
      compare? operand value = some .eq
        ∨ (compare? operand value = some .gt ↔ numberOrder? operand value = some .gt) := by
  rw [GeIsGtOrEq, ofOperator_ge_iff, ofOperator_gt_iff, ofOperator_eqEq_iff, or_iff_or_same_iff]

end

/-! ## §B Numbers beside numbers -/

section

variable {x y : Binary64} {value : Value}

theorem bound_of_numeric? (h : value.numeric? = some y) (hnan : y ≠ .nan) : bound value = y := by
  rw [bound, Value.toNumber_of_numeric? h, Binary64.isNaN_eq_false hnan]
  rfl

/-- Beside a value that says a number both orders of a number are its own. -/
theorem numberOrder?_of_numeric? (h : value.numeric? = some y) (hnan : y ≠ .nan) :
    numberOrder? (.number x) value = compare? (.number x) value := by
  rw [compare?_of_numeric? h, numberOrder?, bound_of_numeric? h hnan]
  rfl

/-- Beside not-a-number a number is compared with zero by the one and not at all by the other. -/
theorem orders_of_numeric?_nan (h : value.numeric? = some .nan) :
    numberOrder? (.number x) value = x.compare? .zero ∧ compare? (.number x) value = none := by
  refine ⟨?_, ?_⟩
  · rw [numberOrder?, bound, Value.toNumber_of_numeric? h]
    rfl
  · rw [compare?_of_numeric? h]
    cases x <;> rfl

theorem compare?_of_texts {operand : Value}
    (h : operand.isNumber = false ∨ value.numeric? = none) :
    compare? operand value = some (Text.order operand.text value.text) := by
  cases operand with
  | number x => exact compare?_of_no_numeric? (h.resolve_left nofun)
  | _ => rfl

end

/-! ## §C The laws -/

/-- **`ordering_laws_iff`** — a number beside a value that says one, not-a-number apart, keeps both
laws. Beside the value that says not-a-number, which `<` and `>` take for zero, a number keeps the
one unless it is negative and the other unless it is positive. Any other operand and value keep a
law if their texts are equal, or if the order of the texts is that of the numbers as far as the law
asks. -/
theorem ordering_laws_iff (operand value : Value) :
    (∀ x y, operand = .number x → value.numeric? = some y → y ≠ .nan →
        LeIsLtOrEq operand value ∧ GeIsGtOrEq operand value)
      ∧ (∀ x, operand = .number x → value.numeric? = some .nan →
        (LeIsLtOrEq operand value ↔ x.less .zero = false)
          ∧ (GeIsGtOrEq operand value ↔ Binary64.zero.less x = false))
      ∧ (operand.isNumber = false ∨ value.numeric? = none →
        (LeIsLtOrEq operand value ↔
            operand.text = value.text
              ∨ (Text.order operand.text value.text = .lt
                  ↔ operand.toNumber.less (bound value) = true))
          ∧ (GeIsGtOrEq operand value ↔
            operand.text = value.text
              ∨ (Text.order operand.text value.text = .gt
                  ↔ (bound value).less operand.toNumber = true))) := by
  rw [leIsLtOrEq_iff, geIsGtOrEq_iff]
  refine ⟨?_, ?_, ?_⟩
  · rintro x y rfl hnumeric hnan
    rw [numberOrder?_of_numeric? hnumeric hnan]
    exact ⟨.inr Iff.rfl, .inr Iff.rfl⟩
  · rintro x rfl hnumeric
    obtain ⟨hnumbers, hcompare⟩ := orders_of_numeric?_nan (x := x) hnumeric
    rw [hnumbers, hcompare, ← Binary64.less_iff, ← Binary64.less_swap_iff]
    simp
  · intro htexts
    rw [compare?_of_texts htexts, Binary64.less_iff, Binary64.less_swap_iff, Option.some_inj,
      Option.some_inj, Option.some_inj, Text.order_eq_iff]
    exact ⟨Iff.rfl, Iff.rfl⟩

/-- A number beside a text that says one, a negative number beside the text of not-a-number, and two
texts that say numbers. -/
theorem ordering_laws_of_numerals :
    (LeIsLtOrEq (.number (Binary64.ofNat 9)) (.string "10")
        ∧ GeIsGtOrEq (.number (Binary64.ofNat 9)) (.string "10"))
      ∧ ¬ LeIsLtOrEq (.number (Binary64.ofInt (-1))) (.string "nan")
      ∧ ¬ LeIsLtOrEq (.string "9") (.string "10") := by
  refine ⟨?_, ?_, ?_⟩
  · exact (ordering_laws_iff _ _).1 _ (Binary64.ofNat 10) rfl (by decide +kernel)
      (by decide +kernel)
  · rw [((ordering_laws_iff _ _).2.1 _ rfl (by decide +kernel)).1]
    decide +kernel
  · rw [((ordering_laws_iff _ _).2.2 (by decide)).1]
    decide +kernel

/-- `b` comes after `a` as a text, but neither says a number. -/
theorem ordering_laws_fail_on_texts :
    ¬ ∀ operand value : Value, operand.hasNaN = false → value.hasNaN = false →
        LeIsLtOrEq operand value ∧ GeIsGtOrEq operand value := by
  intro h
  obtain ⟨-, hge⟩ := h (.string "b") (.string "a") rfl rfl
  revert hge
  rw [GeIsGtOrEq]
  decide +kernel

/-- A text that says no number, such as a date, is above and below nothing for `<` and `>`, so it
keeps the two laws only beside its own text. -/
theorem laws_iff_same_text {operand value : Value} (hkind : operand.isNumber = false)
    (hnan : operand.toNumber = .nan) :
    LeIsLtOrEq operand value ∧ GeIsGtOrEq operand value ↔ operand.text = value.text := by
  have hnumbers : numberOrder? operand value = none := by
    rw [numberOrder?, hnan]
    rfl
  rw [leIsLtOrEq_iff, geIsGtOrEq_iff, hnumbers, compare?_of_texts (.inl hkind),
    ← Text.order_eq_iff]
  cases Text.order operand.text value.text <;> decide

end DomainFilter.Verdict
