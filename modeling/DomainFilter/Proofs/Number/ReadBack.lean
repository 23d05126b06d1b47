/-
# DomainFilter.Proofs.Number.ReadBack — the text of a number is read back

A number is written as an integer where it is a whole number of at most `2 ^ 53 - 1`, and otherwise
by the fewest digits that read back, with the point in its place. Reading that text gives the number
again. Two numbers have one text for that reason only if they are the same up to the sign of a zero.

* §A **`ofInt_of_exactInt?`** — the whole number that a number is stands for it.
* §B **`magnitude_shortest`** — the fewest digits say the magnitude that they are of, whichever grid
  they were found on and however many zeros were dropped.
* §C Numerals of digits and a point: **`magnitude?_set`**.
* §D **`read?_text`** — every text of a number, `NaN` and the infinities included, is read as it.
* §E **`Value.numeralOf?_toText`** — so the text of a number is a string that says the number.

BOUNDARY: the sign of a negative zero is not in its text.
-/
import DomainFilter.Proofs.Number.Digits
import DomainFilter.Proofs.Number.Rounding
import DomainFilter.Proofs.Value.SignedZeros

namespace DomainFilter

/-! ## §A Whole numbers -/

namespace Binary64

theorem unitsOfOne_pos : 0 < unitsOfOne := by decide +kernel

/-- No units are those of zero. -/
theorem units_eq_zero_iff {m : Magnitude} : units m = 0 ↔ m = zeroMagnitude := by
  have hzero : units 0 = 0 := units_first (Nat.zero_le _)
  rw [eq_zeroMagnitude_iff, ← hzero]
  exact units_strictMono.injective.eq_iff

/-- A magnitude of a whole number of ones is the one nearest to that number. -/
theorem magnitudeOfNat_of_units {m : Magnitude} {k : Nat} (h : units m = k * unitsOfOne) :
    magnitudeOfNat k = m := by
  have hself := nearest_units_mul m Nat.one_pos
  rwa [Nat.mul_one, h] at hself

/-- A signed whole quotient has the quotient for its magnitude. -/
theorem natAbs_mul_of_quotient {negative : Bool} {count one : Nat} {n : Int}
    (hwhole : count % one = 0)
    (hn : (if negative then -((count : Int) / one) else (count : Int) / one) = n) :
    count = n.natAbs * one ∧ n = if negative then -(n.natAbs : Int) else n.natAbs := by
  have hcount : count = count / one * one :=
    (Nat.div_mul_cancel (Nat.dvd_of_mod_eq_zero hwhole)).symm
  rw [← Int.natCast_ediv] at hn
  generalize count / one = ones at hn hcount
  have hnat : n.natAbs = ones := by
    rw [← hn]
    cases negative <;> simp
  rw [hnat]
  exact ⟨hcount, hn.symm⟩

/-- The whole number that a number is has its units and its sign. -/
theorem signed_of_exactInt? {negative : Bool} {m : Magnitude} {n : Int}
    (h : exactInt? (.signed negative m) = some n) :
    units m = n.natAbs * unitsOfOne ∧ n = if negative then -(n.natAbs : Int) else n.natAbs := by
  simp only [exactInt?, Option.ite_none_right_eq_some, Option.some_inj] at h
  exact natAbs_mul_of_quotient h.1.1 h.2

theorem isFinite_of_exactInt? {x : Binary64} {n : Int} (h : x.exactInt? = some n) :
    x.isFinite = true := by
  cases x with
  | nan => cases h
  | signed negative m =>
    refine bne_iff_ne.mpr ?_
    rintro rfl
    have hnone : exactInt? (.signed negative infinity) = none := by
      cases negative <;> decide +kernel
    rw [hnone] at h
    cases h

/-- **`ofInt_of_exactInt?`** — the whole number that a number is stands for the number again, but
the sign of a zero is lost. -/
theorem ofInt_of_exactInt? {x : Binary64} {n : Int} (h : x.exactInt? = some n) :
    ofInt n = x.unsignZero := by
  cases x with
  | nan => cases h
  | signed negative m =>
    obtain ⟨hunits, hsign⟩ := signed_of_exactInt? h
    have hzero : n = 0 ↔ m = zeroMagnitude := by
      rw [← units_eq_zero_iff, hunits, Nat.mul_eq_zero, or_iff_left unitsOfOne_pos.ne',
        Int.natAbs_eq_zero]
    rw [ofInt, magnitudeOfNat_of_units hunits]
    by_cases hm : m = zeroMagnitude
    · rw [hm, unsignZero_zero, hzero.mpr hm]
      rfl
    · have hn : n ≠ 0 := fun h => hm (hzero.mp h)
      rw [unsignZero_of_ne_zero hm]
      congr 1
      cases negative with
      | false =>
        rw [if_neg Bool.false_ne_true] at hsign
        exact decide_eq_false (by omega)
      | true =>
        rw [if_pos rfl] at hsign
        exact decide_eq_true (by omega)

end Binary64

/-! ## §B The fewest digits -/

namespace Decimal

open Binary64

theorem magnitude_eq_nearest (d : Decimal) :
    d.magnitude = nearest (d.digits * Nat.pow 10 d.exponent.toNat * unitsOfOne)
      (Nat.pow 10 (-d.exponent).toNat) :=
  ofDecimal_eq_nearest (Digits.lt_pow_length_write d.digits) d.exponent

/-- As many digits as a run has say the magnitude of the decimal. -/
theorem ofDecimal_read {s : List Char} (h : ∀ c ∈ s, c.isDigit = true) (exponent : Int) :
    ofDecimal (Digits.read s) s.length exponent = magnitude ⟨Digits.read s, exponent⟩ := by
  rw [magnitude_eq_nearest, ofDecimal_eq_nearest (Digits.read_lt_pow_length h)]

/-- Zeros at the end of the digits say what the exponent says. -/
theorem magnitude_zeros (digits count : Nat) (exponent : Int) :
    magnitude ⟨Nat.pow 10 count * digits, exponent⟩ = magnitude ⟨digits, exponent + count⟩ := by
  -- some of the zeros shorten the denominator, the others lengthen the numerator
  obtain ⟨shared, left, hcount, hden, hnum⟩ : ∃ shared left, count = shared + left
      ∧ (-exponent).toNat = shared + (-(exponent + count)).toNat
      ∧ (exponent + count).toNat = left + exponent.toNat :=
    ⟨min count (-exponent).toNat, count - min count (-exponent).toNat, by omega, by omega, by omega⟩
  have hdigits : Nat.pow 10 count * digits * Nat.pow 10 exponent.toNat * unitsOfOne
      = Nat.pow 10 shared * (digits * Nat.pow 10 (exponent + count).toNat * unitsOfOne) := by
    rw [hnum, hcount, pow_ten_add, pow_ten_add]
    generalize unitsOfOne = one
    ring
  rw [magnitude_eq_nearest, magnitude_eq_nearest]
  dsimp only
  rw [hdigits, hden, pow_ten_add, nearest_mul_mul (pow_ten_pos shared)]

/-- A power of two below the point is one of ten, with as many fives above it. -/
theorem nearest_fives (m : Magnitude) {places : Nat} {one : Nat} (hone : Nat.pow 2 places = one) :
    nearest (units m * Nat.pow 5 places * Nat.pow 10 0 * one) (Nat.pow 10 places) = m := by
  have hten : Nat.pow 5 places * Nat.pow 2 places = Nat.pow 10 places :=
    (Nat.mul_pow 5 2 places).symm
  have hzero : Nat.pow 10 0 = 1 := rfl
  rw [hzero, Nat.mul_one, ← hone, Nat.mul_assoc, hten]
  exact nearest_units_mul m (pow_ten_pos places)

/-- The exact expansion of a magnitude says it. -/
theorem magnitude_exactly (m : Magnitude) : (exactly (units m)).magnitude = m := by
  have hone : Nat.pow 2 1074 = unitsOfOne := by decide +kernel
  have hplaces : (-(-1074 : Int)).toNat = 1074 := rfl
  have hzero : (-1074 : Int).toNat = 0 := rfl
  rw [magnitude_eq_nearest, exactly]
  dsimp only
  rw [hplaces, hzero]
  -- the powers stay as they are if their exponent is not known
  generalize 1074 = places at hone ⊢
  exact nearest_fives m hone

theorem magnitude_dropZeros (most : Nat) (d : Decimal) :
    (dropZeros most d).magnitude = d.magnitude := by
  induction most generalizing d with
  | zero => rfl
  | succ most ih =>
    rw [dropZeros]
    split
    case isTrue hzero =>
      obtain ⟨digits, exponent⟩ := d
      have hlast : digits = Nat.pow 10 1 * (digits / 10) := by
        have hten : Nat.pow 10 1 = 10 := rfl
        rw [hten]
        exact (Nat.mul_div_cancel' (Nat.dvd_of_mod_eq_zero hzero.2)).symm
      calc (dropZeros most ⟨digits / 10, exponent + 1⟩).magnitude
          = magnitude ⟨digits / 10, exponent + (1 : Nat)⟩ := ih _
        _ = magnitude ⟨Nat.pow 10 1 * (digits / 10), exponent⟩ :=
          (magnitude_zeros (digits / 10) 1 exponent).symm
        _ = magnitude ⟨digits, exponent⟩ := by rw [← hlast]
    case isFalse => rfl

/-- Digits are chosen among those that read back. -/
theorem chooseDigits_reads {tie : DecimalTie} {below digits : Nat} {distance : Ordering}
    {belowReads aboveReads : Bool}
    (h : chooseDigits tie below distance belowReads aboveReads = some digits) :
    belowReads = true ∧ digits = below ∨ aboveReads = true ∧ digits = below + 1 := by
  cases belowReads with
  | false =>
    cases aboveReads with
    | false => cases h
    | true => exact .inr ⟨rfl, (Option.some_inj.mp h).symm⟩
  | true =>
    cases aboveReads with
    | false => exact .inl ⟨rfl, (Option.some_inj.mp h).symm⟩
    | true =>
      -- both read back, so the distance and the tie rule do not matter
      have hchosen : digits = below ∨ digits = below + 1 := by
        cases distance <;> cases tie <;> simp [chooseDigits] at h <;> omega
      simpa using hchosen

/-- A decimal found on a grid says the magnitude. -/
theorem magnitude_of_onGrid? {tie : DecimalTie} {m : Magnitude} {exponent : Int} {d : Decimal}
    (h : onGrid? tie m exponent = some d) : d.magnitude = m := by
  simp only [onGrid?, Option.map_eq_some_iff] at h
  obtain ⟨digits, hdigits, rfl⟩ := h
  rcases chooseDigits_reads hdigits with ⟨hreads, rfl⟩ | ⟨hreads, rfl⟩
  · exact beq_iff_eq.mp hreads
  · exact beq_iff_eq.mp hreads

/-- **`magnitude_shortest`** — the fewest digits of a magnitude say it. -/
theorem magnitude_shortest (tie : DecimalTie) (m : Magnitude) : (shortest tie m).magnitude = m := by
  unfold shortest
  split
  case isTrue hzero =>
    rw [hzero]
    decide +kernel
  case isFalse =>
    rw [magnitude_dropZeros]
    cases hfound : (List.range 17).findSome? fun n : Nat =>
        onGrid? tie m (leadingExponent (units m) - n) with
    | none => exact magnitude_exactly m
    | some d =>
      obtain ⟨n, -, hgrid⟩ := List.exists_of_findSome?_eq_some hfound
      exact magnitude_of_onGrid? hgrid

end Decimal

/-! ## §C Numerals -/

namespace Numeral

variable {s whole fraction : List Char}

/-- Digits alone say a whole number. -/
theorem magnitude?_of_digits (h : ∀ c ∈ s, c.isDigit = true) (hs : s ≠ []) :
    magnitude? s = some (Decimal.magnitude ⟨Digits.read s, 0⟩) := by
  have hmagnitude := Decimal.ofDecimal_read h 0
  simp only [magnitude?, Digits.span_of_digits h, takeFraction, List.append_nil, hs, if_false,
    exponent?, Option.map_some, List.length_nil, Int.natCast_zero, Int.sub_zero, hmagnitude]

/-- Digits on both sides of a point say as much as without it, but for the exponent. -/
theorem magnitude?_of_point (hwhole : ∀ c ∈ whole, c.isDigit = true)
    (hfraction : ∀ c ∈ fraction, c.isDigit = true) (hs : whole ≠ []) :
    magnitude? (whole ++ '.' :: fraction)
      = some (Decimal.magnitude ⟨Digits.read (whole ++ fraction), -fraction.length⟩) := by
  have hpoint : ('.' :: fraction).takeWhile Char.isDigit = [] := by
    rw [List.takeWhile_cons_of_neg (by decide)]
  have hspan := Digits.span_append_of_digits hwhole hpoint
  have hdigits : ∀ c ∈ whole ++ fraction, c.isDigit = true :=
    List.forall_mem_append.mpr ⟨hwhole, hfraction⟩
  have hnonempty : whole ++ fraction ≠ [] := by simp [hs]
  simp only [magnitude?, hspan, takeFraction, Digits.span_of_digits hfraction, hnonempty, if_false,
    exponent?, Option.map_some, Int.zero_sub, Decimal.ofDecimal_read hdigits]

/-- So do digits with a point before the last ones, if that is not before all of them. -/
theorem magnitude?_of_places {places : Nat} (h : ∀ c ∈ s, c.isDigit = true)
    (hplaces : places < s.length) :
    magnitude? (s.take (s.length - places) ++ '.' :: s.drop (s.length - places))
      = some (Decimal.magnitude ⟨Digits.read s, -places⟩) := by
  have hwhole : s.take (s.length - places) ≠ [] := by
    rw [Ne, List.take_eq_nil_iff, not_or]
    exact ⟨by omega, List.ne_nil_of_length_pos (by omega)⟩
  have hlength : (s.drop (s.length - places)).length = places := by
    rw [List.length_drop]
    omega
  rw [magnitude?_of_point (fun c hc => h c (List.mem_of_mem_take hc))
    (fun c hc => h c (List.mem_of_mem_drop hc)) hwhole, List.take_append_drop, hlength]

/-- **`magnitude?_setPositional`** — a decimal that is set positionally says its magnitude. -/
theorem magnitude?_setPositional (d : Decimal) :
    magnitude? (Value.numberLayout.setPositional d) = some d.magnitude := by
  obtain ⟨digits, exponent⟩ := d
  unfold NumberLayout.setPositional
  split
  case isTrue hwhole =>
    dsimp only at hwhole
    -- the zeros up to the point are read like the other digits
    have hdigits : ∀ c ∈ Digits.write digits ++ List.replicate exponent.toNat '0',
        c.isDigit = true := by
      intro c hc
      rcases List.mem_append.mp hc with hdigit | hzero
      · exact Digits.isDigit_of_mem_write hdigit
      · rw [List.eq_of_mem_replicate hzero]
        rfl
    have hread : Digits.read (Digits.write digits ++ List.replicate exponent.toNat '0')
        = Nat.pow 10 exponent.toNat * digits := by
      rw [Digits.read_append, Digits.readFrom_zeros, Digits.read_write]
    have hexponent : (0 : Int) + exponent.toNat = exponent := by omega
    have hnopoint : (if Value.numberLayout.wholePoint = true then ['.', '0'] else []) = [] := rfl
    rw [hnopoint, List.append_nil, magnitude?_of_digits hdigits (by simp [Digits.write_ne_nil]),
      hread, Decimal.magnitude_zeros, hexponent]
  case isFalse hfraction =>
    dsimp only at hfraction ⊢
    have hexponent : -((-exponent).toNat : Int) = exponent := by omega
    rw [magnitude?_of_places (fun c hc => Digits.isDigit_of_mem_writePadded hc)
      (Digits.le_length_writePadded _ _), Digits.read_writePadded, hexponent]

/-- A finite magnitude is read from its digits. -/
theorem magnitude?_set (m : Magnitude) : magnitude? (Value.numberLayout.set m) = some m := by
  have hset : Value.numberLayout.set m
      = Value.numberLayout.setPositional (Decimal.shortest .up m) := rfl
  rw [hset, magnitude?_setPositional, Decimal.magnitude_shortest]

theorem magnitude?_write (n : Nat) :
    magnitude? (Digits.write n) = some (Binary64.magnitudeOfNat n) := by
  have hten : Nat.pow 10 0 = 1 := rfl
  rw [magnitude?_of_digits (fun c hc => Digits.isDigit_of_mem_write hc) (Digits.write_ne_nil n),
    Digits.read_write, Decimal.magnitude_eq_nearest]
  show some (Binary64.nearest (n * Nat.pow 10 0 * Binary64.unitsOfOne) (Nat.pow 10 0)) = _
  rw [hten, Nat.mul_one, Binary64.magnitudeOfNat]

/-! ## §D Numbers -/

/-- A numeral starts with a digit or with a point. -/
theorem head_of_magnitude? {m : Magnitude} (h : magnitude? s = some m) :
    ∃ c rest, s = c :: rest ∧ (c.isDigit = true ∨ c = '.') := by
  cases s with
  | nil => cases h
  | cons c rest =>
    refine ⟨c, rest, rfl, ?_⟩
    by_contra hother
    obtain ⟨hdigit, hpoint⟩ := not_or.mp hother
    have hspan : (c :: rest).span Char.isDigit = ([], c :: rest) := by
      rw [List.span_eq_takeWhile_dropWhile, List.takeWhile_cons_of_neg hdigit,
        List.dropWhile_cons_of_neg hdigit]
    have hfraction : takeFraction (c :: rest) = ([], c :: rest) := by
      unfold takeFraction
      split
      · simp_all
      · rfl
    simp only [magnitude?, hspan, hfraction, List.append_nil, if_true] at h
    cases h

theorem toLower_of_isDigit {c : Char} (h : c.isDigit = true) : c.toLower = c := by
  apply Char.toLower_eq_of_not_isUpper
  intro hupper
  simp only [Char.isDigit, Char.isUpper, Bool.and_eq_true, decide_eq_true_eq, ge_iff_le] at h hupper
  exact absurd (UInt32.le_trans hupper.1 h.2) (by decide)

/-- So it starts with no sign and as none of the words for infinity and not-a-number. -/
theorem head_apart {c : Char} (h : c.isDigit = true ∨ c = '.') :
    c ≠ '+' ∧ c ≠ '-' ∧ c.toLower ≠ 'n' ∧ c.toLower ≠ 'i' := by
  rcases h with hdigit | rfl
  · rw [toLower_of_isDigit hdigit]
    refine ⟨?_, ?_, ?_, ?_⟩ <;> rintro rfl <;> cases hdigit
  · decide

/-- A numeral after an optional minus sign is read as its magnitude. -/
theorem read?_of_magnitude? {m : Magnitude} (h : magnitude? s = some m) (negative : Bool) :
    read? (if negative then '-' :: s else s) = some (.signed negative m) := by
  obtain ⟨c, rest, rfl, hc⟩ := head_of_magnitude? h
  obtain ⟨hplus, hminus, hn, hi⟩ := head_apart hc
  have hsign : takeSign (if negative then '-' :: c :: rest else c :: rest)
      = (negative, c :: rest) := by
    cases negative with
    | true => rfl
    | false =>
      rw [if_neg Bool.false_ne_true]
      unfold takeSign
      split
      · simp_all
      · simp_all
      · rfl
  have hnan : (c :: rest).map Char.toLower ≠ nanText := fun heq => hn (List.cons.inj heq).1
  have hinfinity : (c :: rest).map Char.toLower ∉ infinityTexts := by
    intro hmem
    simp only [infinityTexts, List.mem_cons, List.not_mem_nil, or_false] at hmem
    rcases hmem with heq | heq
    · exact hi (List.cons.inj heq).1
    · exact hi (List.cons.inj heq).1
  simp only [read?, hsign, hnan, hinfinity, if_false, h, Option.map_some]

theorem read?_writeInt (n : Int) : read? (Digits.writeInt n) = some (Binary64.ofInt n) := by
  have hread := read?_of_magnitude? (magnitude?_write n.natAbs) (decide (n < 0))
  simp only [decide_eq_true_eq] at hread
  exact hread

/-- **`read?_text`** — the text of a number is read as the number, without the sign of a zero. -/
theorem read?_text (x : Binary64) : read? x.text = some x.unsignZero := by
  cases hwhole : x.exactInt? with
  | some n =>
    rw [Binary64.text_of_exactInt? hwhole, read?_writeInt, Binary64.ofInt_of_exactInt? hwhole]
  | none =>
    unfold Binary64.text
    rw [hwhole]
    cases x with
    | nan => decide +kernel
    | signed negative m =>
      -- a zero is a whole number and does not come this far
      have hm : m ≠ Binary64.zeroMagnitude := by
        rintro rfl
        have hzero : Binary64.exactInt? (.signed negative Binary64.zeroMagnitude) = some 0 := by
          cases negative <;> decide +kernel
        rw [hzero] at hwhole
        cases hwhole
      rw [Binary64.unsignZero_of_ne_zero hm]
      dsimp only
      split
      case isTrue hinfinity =>
        rw [hinfinity]
        cases negative <;> decide +kernel
      case isFalse => exact read?_of_magnitude? (magnitude?_set m) negative

end Numeral

/-- One tenth, as near to it as a number is. -/
def Binary64.oneTenth : Binary64 :=
  .signed false (dividedBy (magnitudeOfNat 1) (magnitudeOfNat 10))

/-- One digit is enough for it, although it is not one tenth exactly. -/
example : Binary64.oneTenth.text = "0.1".toList := by decide +kernel

/-! ## §E Values -/

theorem NumberLayout.mem_setPositional {d : Decimal} {c : Char}
    (h : c ∈ Value.numberLayout.setPositional d) : c.isDigit = true ∨ c = '.' := by
  unfold setPositional at h
  split at h
  case isTrue =>
    rcases List.mem_append.mp h with hdigits | hnone
    · rcases List.mem_append.mp hdigits with hdigit | hzero
      · exact .inl (Digits.isDigit_of_mem_write hdigit)
      · rw [List.eq_of_mem_replicate hzero]
        exact .inl rfl
    · cases hnone
  case isFalse =>
    rcases List.mem_append.mp h with hwhole | hpoint
    · exact .inl (Digits.isDigit_of_mem_writePadded (List.mem_of_mem_take hwhole))
    · rcases List.mem_cons.mp hpoint with rfl | hfraction
      · exact .inr rfl
      · exact .inl (Digits.isDigit_of_mem_writePadded (List.mem_of_mem_drop hfraction))

theorem Digits.not_blank_of_mem_writeInt {n : Int} {c : Char} (h : c ∈ writeInt n) :
    Text.isBlank c = false := by
  unfold writeInt at h
  split at h
  case isTrue =>
    rcases List.mem_cons.mp h with rfl | hdigit
    · decide
    · exact Text.isBlank_of_isDigit (isDigit_of_mem_write hdigit)
  case isFalse => exact Text.isBlank_of_isDigit (isDigit_of_mem_write h)

theorem NumberLayout.not_blank_of_mem_write {negative : Bool} {m : Magnitude} {c : Char}
    (h : c ∈ Value.numberLayout.write negative m) : Text.isBlank c = false := by
  have hset : ∀ c ∈ Value.numberLayout.set m, Text.isBlank c = false := by
    intro c hc
    rcases mem_setPositional hc with hdigit | rfl
    · exact Text.isBlank_of_isDigit hdigit
    · decide
  cases negative with
  | false => exact hset c h
  | true =>
    rcases List.mem_cons.mp h with rfl | hc
    · decide
    · exact hset c hc

/-- No number has white space in its text. -/
theorem Binary64.not_blank_of_mem_text {x : Binary64} {c : Char} (h : c ∈ x.text) :
    Text.isBlank c = false := by
  have hnan : "NaN".toList.any Text.isBlank = false := by decide +kernel
  have hinfinity : ∀ negative : Bool, (if negative then "-Infinity".toList
      else "Infinity".toList).any Text.isBlank = false := by decide +kernel
  cases hwhole : x.exactInt? with
  | some n =>
    rw [text_of_exactInt? hwhole] at h
    exact Digits.not_blank_of_mem_writeInt h
  | none =>
    unfold text at h
    rw [hwhole] at h
    cases x with
    | nan => exact Bool.eq_false_iff.mpr (List.any_eq_false.mp hnan c h)
    | signed negative m =>
      dsimp only at h
      split at h
      case isTrue =>
        exact Bool.eq_false_iff.mpr (List.any_eq_false.mp (hinfinity negative) c h)
      case isFalse => exact NumberLayout.not_blank_of_mem_write h

/-- **`numeralOf?_toText`** — the text of a number is a text that says it. -/
theorem Value.numeralOf?_toText (x : Binary64) :
    numeralOf? (Value.number x).toText = some x.unsignZero := by
  have hlist : (Value.number x).toText.toList = x.text := String.toList_ofList
  rw [numeralOf?, hlist, Text.trim_of_no_blank (fun _ => Binary64.not_blank_of_mem_text),
    Numeral.read?_text]

end DomainFilter
