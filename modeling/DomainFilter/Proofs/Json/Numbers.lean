/-
# DomainFilter.Proofs.Json.Numbers — which numbers are read back

A number in a JSON text is not always the nearest one to its digits: the digits and the power of ten
are rounded first and their product or quotient once more. Where both are numbers of the format,
only that last rounding is left.

* §A Whole numbers of 53 bits with zeros after them, and powers of ten up to `10 ^ 22`, are numbers
  of the format. **`scaled?_of_short`** — scaling one by the other gives the nearest magnitude.
* §B **`numberOf?_writtenWhole_iff`** — a whole number is read as itself exactly if it is one of 64
  bits.
* §C **`readsBack_of_short`** — so is a real number whose digits are of 53 bits and stand at most 22
  places from the point.

BOUNDARY: a longer number may be read as one beside it. Which ones are read back is for each of them
a computation, and `Json.ReadsBack` says what has to come out.
-/
import DomainFilter.Proofs.Json.Grammar

namespace DomainFilter

/-! ## §A Scaling -/

namespace Binary64

/-- Some rank has twice the units of a rank, at most a run further. -/
theorem exists_units_double (rank : Nat) :
    ∃ double ≤ rank + Nat.pow 2 52, units double = 2 * units rank := by
  by_cases hfirst : rank < Nat.pow 2 52
  · have hrank : units rank = rank := units_first (Nat.le_of_lt hfirst)
    refine ⟨2 * rank, by omega, ?_⟩
    by_cases hdouble : 2 * rank ≤ Nat.pow 2 52
    · rw [units_first hdouble, hrank]
    · have hlater := @units_later 0 (2 * rank - Nat.pow 2 52) (by omega)
      have hsplit : (0 + 1) * Nat.pow 2 52 + (2 * rank - Nat.pow 2 52) = 2 * rank := by omega
      have hone : Nat.pow 2 0 = 1 := rfl
      rw [hsplit, hone] at hlater
      omega
  · obtain ⟨run, place, hplace, hrank⟩ : ∃ run place, place < Nat.pow 2 52
        ∧ rank = (run + 1) * Nat.pow 2 52 + place := by
      have hdiv := Nat.div_add_mod' rank (Nat.pow 2 52)
      have hpos : 0 < rank / Nat.pow 2 52 := Nat.div_pos (Nat.not_lt.mp hfirst) (by decide)
      refine ⟨rank / Nat.pow 2 52 - 1, rank % Nat.pow 2 52, Nat.mod_lt _ (by decide), ?_⟩
      rw [Nat.sub_add_cancel hpos, hdiv]
    have hnext : rank + Nat.pow 2 52 = (run + 1 + 1) * Nat.pow 2 52 + place := by
      rw [hrank, Nat.succ_mul (run + 1)]
      omega
    have hpower : Nat.pow 2 (run + 1) = 2 * Nat.pow 2 run := Nat.pow_succ'
    refine ⟨rank + Nat.pow 2 52, Nat.le_refl _, ?_⟩
    rw [hnext, units_later _ hplace.le, hrank, units_later _ hplace.le, hpower, Nat.mul_left_comm]

/-- A number of 53 bits with zeros after them is a number of units that some rank has. -/
theorem exists_units_shift {digits : Nat} (h : digits ≤ 2 * Nat.pow 2 52) (zeros : Nat) :
    ∃ rank ≤ (zeros + 2) * Nat.pow 2 52, units rank = digits * Nat.pow 2 zeros := by
  induction zeros with
  | zero =>
    have hone : Nat.pow 2 0 = 1 := rfl
    refine ⟨digits, by omega, ?_⟩
    rw [hone, Nat.mul_one]
    by_cases hfirst : digits ≤ Nat.pow 2 52
    · exact units_first hfirst
    · have hlater := @units_later 0 (digits - Nat.pow 2 52) (by omega)
      have hsplit : (0 + 1) * Nat.pow 2 52 + (digits - Nat.pow 2 52) = digits := by omega
      rw [hsplit, hone] at hlater
      omega
  | succ zeros ih =>
    obtain ⟨rank, hrank, hunits⟩ := ih
    obtain ⟨double, hdouble, htwice⟩ := exists_units_double rank
    have hpower : Nat.pow 2 (zeros + 1) = 2 * Nat.pow 2 zeros := Nat.pow_succ'
    refine ⟨double, ?_, ?_⟩
    · have hmore : (zeros + 1 + 2) * Nat.pow 2 52 = (zeros + 2) * Nat.pow 2 52 + Nat.pow 2 52 :=
        Nat.succ_mul (zeros + 2) _
      omega
    · rw [htwice, hunits, hpower, Nat.mul_left_comm]

theorem pow_two_add (d e : Nat) : Nat.pow 2 (d + e) = Nat.pow 2 d * Nat.pow 2 e :=
  Nat.pow_add 2 d e

/-- So is such a number of ones, where a one is a power of two in units. -/
theorem exists_units_ones {digits places one : Nat} (h : digits ≤ 2 * Nat.pow 2 52) (zeros : Nat)
    (hone : Nat.pow 2 places = one) :
    ∃ rank ≤ (zeros + places + 2) * Nat.pow 2 52, units rank = digits * Nat.pow 2 zeros * one := by
  rw [← hone, Nat.mul_assoc, ← pow_two_add]
  exact exists_units_shift h (zeros + places)

/-- **`units_magnitudeOfNat`** — a natural number of 53 bits with not too many zeros after them is a
number of the format. -/
theorem units_magnitudeOfNat {digits zeros : Nat} (h : digits ≤ 2 * Nat.pow 2 52)
    (hzeros : zeros ≤ 900) :
    units (magnitudeOfNat (digits * Nat.pow 2 zeros)) = digits * Nat.pow 2 zeros * unitsOfOne := by
  have hone : Nat.pow 2 1074 = unitsOfOne := by decide +kernel
  obtain ⟨rank, hrank, hunits⟩ := exists_units_ones h zeros hone
  have hbound : (zeros + 1074 + 2) * Nat.pow 2 52 ≤ infinityRank := by
    unfold infinityRank
    exact Nat.mul_le_mul_right _ (by omega)
  have hnearest : magnitudeOfNat (digits * Nat.pow 2 zeros)
      = ⟨rank, Nat.lt_succ_of_le (hrank.trans hbound)⟩ :=
    magnitudeOfNat_of_units hunits
  rw [hnearest]
  exact hunits

/-- A power of ten is one of five with zeros after it. -/
theorem pow_ten_eq (e : Nat) : Nat.pow 10 e = Nat.pow 5 e * Nat.pow 2 e := Nat.mul_pow 5 2 e

end Binary64

namespace Json

open Binary64

theorem units_powerOfTen {e : Nat} (h : e ≤ 22) :
    units (powerOfTen e) = Nat.pow 10 e * unitsOfOne := by
  have hfive : Nat.pow 5 e ≤ 2 * Nat.pow 2 52 :=
    (Nat.pow_le_pow_right (by decide) h).trans (by decide)
  rw [powerOfTen, pow_ten_eq]
  exact units_magnitudeOfNat hfive (by omega)

theorem units_digits {digits : Nat} (h : digits ≤ 2 * Nat.pow 2 52) :
    units (magnitudeOfNat digits) = digits * unitsOfOne := by
  have hunits := units_magnitudeOfNat h (Nat.zero_le 900)
  have hone : Nat.pow 2 0 = 1 := rfl
  rwa [hone, Nat.mul_one] at hunits

/-- A product of two numbers of ones is rounded like the product of the numbers. -/
theorem times_of_units {x y : Magnitude} {m n : Nat} (hx : units x = m * unitsOfOne)
    (hy : units y = n * unitsOfOne) : times x y = nearest (m * n * unitsOfOne) 1 := by
  have hpos := unitsOfOne_pos
  rw [times, hx, hy]
  generalize unitsOfOne = one at hpos ⊢
  have hnum : m * one * (n * one) = one * (m * n * one) := by ring
  rw [hnum, ← nearest_mul_mul hpos (m * n * one) 1, Nat.mul_one]

/-- So is a quotient. -/
theorem dividedBy_of_units {x y : Magnitude} {m n : Nat} (hx : units x = m * unitsOfOne)
    (hy : units y = n * unitsOfOne) : dividedBy x y = nearest (m * unitsOfOne) n := by
  have hpos := unitsOfOne_pos
  rw [dividedBy, hx, hy]
  generalize unitsOfOne = one at hpos ⊢
  rw [Nat.mul_comm (m * one), Nat.mul_comm n, nearest_mul_mul hpos]

/-- The decimal has digits of 53 bits, and at most 22 zeros after them or places among them. -/
structure Short (d : Decimal) : Prop where
  digits_le : d.digits ≤ 2 * Nat.pow 2 52
  exponent_le : d.exponent.natAbs ≤ 22

/-- **`scaled?_of_short`** — scaling rounds a short decimal once, so it gives the nearest magnitude
if that is finite. -/
theorem scaled?_of_short {d : Decimal} (h : Short d) (hfinite : d.magnitude ≠ infinity) :
    scaled? d.digits d.exponent = some d.magnitude := by
  obtain ⟨digits, exponent⟩ := d
  obtain ⟨hdigits, hexponent⟩ := h
  have hunits : units (magnitudeOfNat digits) = digits * unitsOfOne := units_digits hdigits
  have hone : Nat.pow 10 0 = 1 := rfl
  rw [Decimal.magnitude_eq_nearest] at hfinite ⊢
  dsimp only at hexponent hfinite ⊢
  unfold scaled?
  dsimp only
  split
  case isTrue hwhole =>
    have hplaces : (-exponent).toNat = 0 := by omega
    have hproduct := times_of_units hunits (units_powerOfTen (e := exponent.toNat) (by omega))
    rw [hplaces, hone] at hfinite ⊢
    split
    case isTrue hzero =>
      rw [hzero, Nat.zero_mul, Nat.zero_mul, nearest_eq_zero (by decide)]
    case isFalse =>
      rw [if_pos (by unfold greatestScale; omega), hproduct, if_neg hfinite]
  case isFalse hfraction =>
    have hexponentZero : exponent.toNat = 0 := by omega
    have hquotient :=
      dividedBy_of_units hunits (units_powerOfTen (e := (-exponent).toNat) (by omega))
    rw [if_pos (by unfold greatestScale; omega), hquotient, hexponentZero, hone, Nat.mul_one]

/-! ## §B Digits that are read whole -/

theorem le_readFrom (n : Nat) (digits : List Char) : n ≤ Digits.readFrom n digits := by
  induction digits generalizing n with
  | nil => exact Nat.le_refl n
  | cons c digits ih => exact Nat.le_trans (by omega) (ih (10 * n + Digits.value c))

/-- **`leadingDigits_of_le`** — of digits whose number fits 64 bits none is left. -/
theorem leadingDigits_of_le {n : Nat} {digits : List Char}
    (h : Digits.readFrom n digits ≤ greatestWord) :
    leadingDigits n digits = (Digits.readFrom n digits, []) := by
  induction digits generalizing n with
  | nil => rfl
  | cons c digits ih =>
    have hstep : 10 * n + Digits.value c ≤ greatestWord := (le_readFrom _ digits).trans h
    rw [leadingDigits, if_pos hstep]
    exact ih h

theorem leadingDigits_write {n : Nat} (h : n ≤ greatestWord) :
    leadingDigits 0 (Digits.write n) = (n, []) := by
  have hread : Digits.readFrom 0 (Digits.write n) = n := Digits.read_write n
  rw [leadingDigits_of_le (hread.symm ▸ h), hread]

/-- Digits of which none is left say a number that fits. -/
theorem of_leadingDigits_eq {n leading : Nat} {digits : List Char} (hn : n ≤ greatestWord)
    (h : leadingDigits n digits = (leading, [])) :
    leading = Digits.readFrom n digits ∧ leading ≤ greatestWord := by
  induction digits generalizing n with
  | nil =>
    obtain rfl := (Prod.mk.inj h).1
    exact ⟨rfl, hn⟩
  | cons c digits ih =>
    rw [leadingDigits] at h
    split at h
    case isTrue hstep => exact ih hstep h
    case isFalse => cases (Prod.mk.inj h).2

theorem numberOf?_writtenWhole {n : Int} (hleast : -(Nat.pow 2 63 : Nat) ≤ n)
    (hgreatest : n ≤ greatestWord) : numberOf? (writtenWhole n) = some (.whole n) := by
  have hfits : n.natAbs ≤ greatestWord := by
    have hless : Nat.pow 2 63 ≤ greatestWord := by decide
    omega
  simp only [numberOf?, writtenWhole, leadingDigits_write hfits, ne_eq, not_true_eq_false, if_false]
  by_cases hnegative : n < 0
  · have hnot : ¬ (n.natAbs = 0 ∨ Nat.pow 2 63 < n.natAbs) := by omega
    have hvalue : -(n.natAbs : Int) = n := by omega
    simp only [hnegative, decide_true, Bool.not_true, Bool.false_eq_true, if_false, hnot, hvalue]
  · have hvalue : (n.natAbs : Int) = n := by omega
    simp only [hnegative, decide_false, Bool.not_false, if_true, hvalue]

/-- **`numberOf?_writtenWhole_iff`** — a whole number is read as itself exactly if it is one of 64
bits, with a sign or without one. -/
theorem numberOf?_writtenWhole_iff {n : Int} :
    numberOf? (writtenWhole n) = some (.whole n)
      ↔ -(Nat.pow 2 63 : Nat) ≤ n ∧ n ≤ greatestWord := by
  constructor
  · intro h
    obtain ⟨leading, left, hleading⟩ :
        ∃ leading left, leadingDigits 0 (Digits.write n.natAbs) = (leading, left) := ⟨_, _, rfl⟩
    have hreal : ∀ {read : Option Magnitude} {f : Magnitude → Binary64},
        (read.map fun m => Json.real (f m)) ≠ some (.whole n) := by
      rintro (- | m) f hread <;> cases hread
    simp only [numberOf?, writtenWhole, hleading] at h
    split at h
    case isTrue => exact absurd h hreal
    case isFalse hnone =>
      rw [not_not] at hnone
      obtain ⟨hread, hfits⟩ := of_leadingDigits_eq (Nat.zero_le _) (hnone ▸ hleading)
      have hnat : leading = n.natAbs := hread.trans (Digits.read_write _)
      by_cases hnegative : n < 0
      · simp only [hnegative, decide_true, Bool.not_true, Bool.false_eq_true, if_false] at h
        split at h
        case isTrue => exact absurd h hreal
        case isFalse hbound => omega
      · omega
  · rintro ⟨hleast, hgreatest⟩
    exact numberOf?_writtenWhole hleast hgreatest

/-- The decimal that a written number says: all its digits, and the place of the last one. -/
def WrittenNumber.decimal (n : WrittenNumber) : Decimal :=
  ⟨Digits.read (n.whole ++ n.fraction.getD []),
    n.exponent.getD 0 - (n.fraction.getD []).length⟩

/-- A number with a point or an exponent is its decimal, scaled, if its digits fit 64 bits. -/
theorem numberOf?_eq_scaled {n : WrittenNumber} (hreal : n.fraction ≠ none ∨ n.exponent ≠ none)
    (hdigits : n.decimal.digits ≤ greatestWord) :
    numberOf? n
      = (scaled? n.decimal.digits n.decimal.exponent).map (.real ∘ .signed n.negative) := by
  obtain ⟨negative, whole, fraction, exponent⟩ := n
  have hread : Digits.read (whole ++ fraction.getD [])
      = Digits.readFrom (Digits.read whole) (fraction.getD []) := Digits.read_append _ _
  rw [WrittenNumber.decimal] at hdigits ⊢
  dsimp only at hdigits hreal ⊢
  rw [hread] at hdigits ⊢
  have hwhole : leadingDigits 0 whole = (Digits.read whole, []) :=
    leadingDigits_of_le ((le_readFrom _ _).trans hdigits)
  have hfraction := leadingDigits_of_le hdigits
  unfold numberOf?
  dsimp only
  rw [hwhole]
  split
  case h_1 =>
    exact absurd rfl (hreal.resolve_left fun hne => hne rfl)
  case h_2 =>
    simp only [hfraction, List.length_nil, Nat.sub_zero, Int.natCast_zero, Int.add_zero]
    rfl

/-! ## §C Real numbers that are read back -/

theorem decimal_wholeDecimal (negative : Bool) (digits zeros : Nat) :
    (wholeDecimal negative digits zeros).decimal = ⟨Nat.pow 10 (zeros + 1) * digits, -1⟩ := by
  have hzeros : List.replicate zeros '0' ++ ['0'] = List.replicate (zeros + 1) '0' :=
    List.replicate_succ'.symm
  simp only [WrittenNumber.decimal, wholeDecimal, Option.getD_some, Option.getD_none,
    List.append_assoc, hzeros, Digits.read_append, Digits.read_write, Digits.readFrom_zeros]
  rfl

theorem decimal_pointDecimal (negative : Bool) (digits places : Nat) :
    (pointDecimal negative digits places).decimal = ⟨digits, -places⟩ := by
  have hlength := Digits.le_length_writePadded (places + 1) digits
  simp only [WrittenNumber.decimal, pointDecimal, Option.getD_some, Option.getD_none,
    List.take_append_drop, Digits.read_writePadded, List.length_drop, Decimal.mk.injEq, true_and]
  omega

theorem decimal_scientificDecimal (negative : Bool) (d : Decimal) :
    (scientificDecimal negative d).decimal = d := by
  have hlength : 0 < (Digits.write d.digits).length :=
    List.length_pos_iff.mpr (Digits.write_ne_nil _)
  obtain ⟨digits, exponent⟩ := d
  simp only [WrittenNumber.decimal, scientificDecimal, Option.getD_some]
  split
  case isTrue hone =>
    rw [Option.getD_none, List.append_nil, List.take_of_length_le hone, Digits.read_write]
    simp only [List.length_nil, Decimal.mk.injEq, true_and]
    dsimp only at hlength
    omega
  case isFalse =>
    rw [Option.getD_some, List.take_append_drop, Digits.read_write, List.length_drop]
    simp only [Decimal.mk.injEq, true_and]
    omega

/-- **`magnitude_decimal`** — in whichever form a decimal is written, it says the same magnitude. -/
theorem magnitude_decimal (negative : Bool) (d : Decimal) :
    (writtenDecimal negative d).decimal.magnitude = d.magnitude := by
  unfold writtenDecimal
  split
  · split
    case isTrue hwhole =>
      have hexponent : (-1 : Int) + (d.exponent.toNat + 1 : Nat) = d.exponent := by omega
      rw [decimal_wholeDecimal, Decimal.magnitude_zeros, hexponent]
    case isFalse hfraction =>
      have hexponent : -((-d.exponent).toNat : Int) = d.exponent := by omega
      rw [decimal_pointDecimal, hexponent]
  · rw [decimal_scientificDecimal]

theorem point_or_exponent (negative : Bool) (d : Decimal) :
    (writtenDecimal negative d).fraction ≠ none ∨ (writtenDecimal negative d).exponent ≠ none := by
  unfold writtenDecimal
  split
  · split
    · exact .inl (Option.some_ne_none _)
    · exact .inl (Option.some_ne_none _)
  · exact .inr (Option.some_ne_none _)

/-- As it is written, the number means itself. -/
def ReadsBack (x : Binary64) : Prop := ofWritten? 0 (writtenReal x) = some (.real x)

/-- A number that is not finite is written as null, and means no number. -/
theorem ReadsBack.isFinite {x : Binary64} (h : ReadsBack x) : x.isFinite = true := by
  cases x with
  | nan => cases h
  | signed negative m =>
    rw [Binary64.isFinite, bne_iff_ne]
    rintro rfl
    rw [ReadsBack, writtenReal, if_pos rfl] at h
    cases h

/-- No number needs any levels. -/
theorem ofWritten?_writtenReal (levels : Nat) (x : Binary64) :
    ofWritten? levels (writtenReal x) = ofWritten? 0 (writtenReal x) := by
  cases x with
  | nan => rfl
  | signed negative m =>
    rw [writtenReal]
    split
    · rfl
    · rw [ofWritten?, ofWritten?]

/-- **`readsBack_of_short`** — a finite number that is written short enough is read back. -/
theorem readsBack_of_short {negative : Bool} {m : Magnitude} (hfinite : m ≠ infinity)
    (h : Short (writtenDecimal negative (Decimal.shortest .even m)).decimal) :
    ReadsBack (.signed negative m) := by
  have hmagnitude : (writtenDecimal negative (Decimal.shortest .even m)).decimal.magnitude = m := by
    rw [magnitude_decimal, Decimal.magnitude_shortest]
  have hscaled := scaled?_of_short h (hmagnitude.symm ▸ hfinite)
  have hword : 2 * Nat.pow 2 52 ≤ greatestWord := by decide
  rw [ReadsBack, writtenReal, if_neg hfinite, ofWritten?]
  rw [numberOf?_eq_scaled (point_or_exponent _ _) (h.digits_le.trans hword), hscaled, hmagnitude,
    negative_writtenDecimal]
  rfl

end Json

end DomainFilter
