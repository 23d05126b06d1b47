/-
# DomainFilter.Proofs.Verdict.StoredNumbers — equality of numbers, however they are stored

A number may be stored as a number or as its text. Beside a number `==` compares numbers, also if the
other side is a text; two texts, and a text as operand, it compares as texts. Both come to the same,
because the text of a number says the number.

* §A Numbers have one text exactly if they are equal, unless both are not-a-number.
* §B **`equality_of_stored_numbers`** — `==` says whether the numbers are equal, in each of the four
  ways to store them.

BOUNDARY: as a number not-a-number is equal to nothing, its text is equal to itself.
-/
import DomainFilter.Proofs.Number.ReadBack
import DomainFilter.Proofs.Verdict.Ordering

namespace DomainFilter

/-! ## §A Numbers and their texts -/

namespace Binary64

variable {x y : Binary64}

theorem text_eq_iff : x.text = y.text ↔ x.unsignZero = y.unsignZero := by
  constructor
  · intro h
    rw [← Option.some_inj, ← Numeral.read?_text, ← Numeral.read?_text, h]
  · intro h
    rw [← text_unsignZero x, h, text_unsignZero y]

/-- **`equals_iff_text`** — numbers are equal exactly if their texts are. -/
theorem equals_iff_text (h : x ≠ .nan ∨ y ≠ .nan) : x.equals y = true ↔ x.text = y.text := by
  rw [equals_iff, text_eq_iff, and_iff_left_iff_imp]
  intro hsame
  have hnan : x.isNaN = y.isNaN := by rw [← isNaN_unsignZero, hsame, isNaN_unsignZero]
  rcases h with hx | hy
  · exact isNaN_eq_false hx
  · rw [hnan]
    exact isNaN_eq_false hy

/-- And exactly if they are at one place on the line. -/
theorem equals_iff_onLine? (h : x ≠ .nan ∨ y ≠ .nan) :
    x.equals y = true ↔ x.onLine? = y.onLine? := by
  cases x with
  | nan =>
    obtain ⟨b, hb⟩ := exists_onLine? (h.resolve_left fun hne => hne rfl)
    rw [hb]
    exact iff_of_false nofun nofun
  | signed s m =>
    cases y with
    | nan => exact iff_of_false nofun nofun
    | signed t n =>
      have hcompare : compare? (.signed s m) (.signed t n)
          = some (compare (place s m) (place t n)) := compare?_of_onLine? rfl rfl
      rw [equals, beq_iff_eq, hcompare, Option.some_inj, compare_eq_iff_eq, onLine?, onLine?,
        Option.some_inj]

end Binary64

/-- A value is a number, or the text of it. -/
inductive Value.Stores : Value → Binary64 → Prop
  | number (x : Binary64) : Stores (.number x) x
  | text (x : Binary64) : Stores (.string (Value.number x).toText) x

/-- Stored in either way, a number has its own text. -/
theorem Value.Stores.text_eq {value : Value} {x : Binary64} (h : value.Stores x) :
    value.text = x.text := by
  cases h with
  | number => rfl
  | text => exact String.toList_ofList

namespace Verdict

/-! ## §B Equality -/

section

variable {x y : Binary64} {operand value : Value}

/-- Beside a number the number that a value stores is compared, whichever way it is stored. -/
theorem compare?_number_of_stores (h : value.Stores y) :
    compare? (.number x) value = x.compare? y := by
  cases h with
  | number => rfl
  | text =>
    have hnumeric : Value.numeric? (.string (Value.number y).toText) = some y.unsignZero :=
      Value.numeralOf?_toText y
    rw [compare?_of_numeric? hnumeric, ← Binary64.compare?_unsignZero,
      Binary64.unsignZero_unsignZero, Binary64.compare?_unsignZero]

theorem compare?_eq_iff_of_stores (h : x ≠ .nan ∨ y ≠ .nan) (hoperand : operand.Stores x)
    (hvalue : value.Stores y) : compare? operand value = some .eq ↔ x.equals y = true := by
  cases hoperand with
  | number => rw [compare?_number_of_stores hvalue, Binary64.equals, beq_iff_eq]
  | text =>
    -- a text is compared as a text, whatever the value says
    have htexts : compare? (.string (Value.number x).toText) value
        = some (Text.order x.text y.text) := by
      rw [compare?_of_texts (.inl rfl), (Value.Stores.text x).text_eq, hvalue.text_eq]
    rw [htexts, Option.some_inj, Text.order_eq_iff, Binary64.equals_iff_text h]

/-- **`equality_of_stored_numbers`** — stored as numbers or as texts, `==` says of two numbers
whether they are equal, which is to say at one place on the line, unless both are not-a-number. -/
theorem equality_of_stored_numbers (h : x ≠ .nan ∨ y ≠ .nan) (hoperand : operand.Stores x)
    (hvalue : value.Stores y) :
    ofOperator .eqEq operand value = some (x.equals y)
      ∧ ofOperator .eq operand value = some (x.equals y)
      ∧ (x.equals y = true ↔ x.onLine? = y.onLine?) := by
  have hcompare := compare?_eq_iff_of_stores h hoperand hvalue
  have hverdict : (compare? operand value == some .eq) = x.equals y := by
    rw [Bool.eq_iff_iff, beq_iff_eq, hcompare]
  exact ⟨congrArg some hverdict, congrArg some hverdict, Binary64.equals_iff_onLine? h⟩

end

/-- The text of one tenth is equal to one tenth, and the negative zero to the text of zero. -/
theorem equality_of_stored_tenth_and_zero :
    (Binary64.oneTenth ≠ .nan ∧ Value.Stores (.string "0.1") .oneTenth
        ∧ ofOperator .eqEq (.string "0.1") (.number .oneTenth) = some true)
      ∧ Binary64.signed true Binary64.zeroMagnitude ≠ .nan ∧ Value.Stores (.string "0") .zero
        ∧ ofOperator .eqEq (.number (.signed true Binary64.zeroMagnitude)) (.string "0")
          = some true := by
  have htenth : Value.Stores (.string "0.1") .oneTenth := by
    have htext : (Value.number .oneTenth).toText = "0.1" := by decide +kernel
    exact htext ▸ Value.Stores.text .oneTenth
  have hzero : Value.Stores (.string "0") .zero := by
    have htext : (Value.number .zero).toText = "0" := by decide +kernel
    exact htext ▸ Value.Stores.text .zero
  have htenthNumber : Binary64.oneTenth ≠ .nan := nofun
  have hnegativeNumber : Binary64.signed true Binary64.zeroMagnitude ≠ .nan := nofun
  have htenthEquals : Binary64.oneTenth.equals .oneTenth = true := by decide +kernel
  have hzeroEquals : Binary64.equals (.signed true Binary64.zeroMagnitude) .zero = true := by
    decide +kernel
  refine ⟨⟨htenthNumber, htenth, ?_⟩, hnegativeNumber, hzero, ?_⟩
  · rw [(equality_of_stored_numbers (.inl htenthNumber) htenth (.number .oneTenth)).1,
      htenthEquals]
  · rw [(equality_of_stored_numbers (.inl hnegativeNumber) (.number _) hzero).1, hzeroEquals]

end Verdict

end DomainFilter
