/-
# DomainFilter.Proofs.Number.Rounding — the nearest number of the format

Rounding finds the greatest rank below a quotient and compares the quotient with the midpoint to the
next. Three things about it are all that reading and writing numbers needs.

* §A **`le_rankBelow_iff`** — `rankBelow` finds the greatest rank of at most so many units.
* §B Rounding depends on the quotient alone (`nearest_mul_mul`), leaves a magnitude as it is
  (**`nearest_units_mul`**), and is zero and infinity far out.
* §C **`ofDecimal_eq_nearest`** — a decimal is rounded once, whatever its exponent. The bounds that
  keep the powers small change no answer.
-/
import DomainFilter.Number.Rounding
import DomainFilter.Proofs.Number.Line

namespace DomainFilter.Binary64

/-! ## §A The greatest rank below -/

/-- A count of `2 ^ 52` units or more is in a later run of ranks. -/
theorem rankBelow_later {count : Nat} (h : Nat.pow 2 52 ≤ count) :
    ∃ run place, place < Nat.pow 2 52 ∧ count / Nat.pow 2 run = Nat.pow 2 52 + place
      ∧ rankBelow count = (run + 1) * Nat.pow 2 52 + place := by
  have hpos : count ≠ 0 := by
    rintro rfl
    exact absurd h (by decide)
  have hlog : 52 ≤ count.log2 := (Nat.le_log2 hpos).mpr h
  obtain ⟨run, hrun⟩ := Nat.exists_eq_add_of_le hlog
  have hlow : Nat.pow 2 52 * Nat.pow 2 run ≤ count := by
    rw [Nat.pow_eq, Nat.pow_eq, ← Nat.pow_add, ← hrun]
    exact Nat.log2_self_le hpos
  have hhigh : count < 2 * Nat.pow 2 52 * Nat.pow 2 run := by
    have hnext : 2 ^ (count.log2 + 1) = 2 * Nat.pow 2 52 * Nat.pow 2 run := by
      rw [hrun, pow_succ, pow_add, Nat.mul_comm _ 2, ← Nat.mul_assoc]
      rfl
    rw [← hnext]
    exact Nat.lt_log2_self
  have hpower : 0 < Nat.pow 2 run := Nat.two_pow_pos run
  have hfirst : Nat.pow 2 52 ≤ count / Nat.pow 2 run := (Nat.le_div_iff_mul_le hpower).mpr hlow
  have hlast : count / Nat.pow 2 run < 2 * Nat.pow 2 52 := (Nat.div_lt_iff_lt_mul hpower).mpr hhigh
  refine ⟨run, count / Nat.pow 2 run - Nat.pow 2 52, by omega, by omega, ?_⟩
  have hscale : count.log2 - 52 = run := by omega
  rw [rankBelow, hscale, Nat.succ_mul]
  omega

/-- The rank found has at most so many units, and the next one has more. -/
theorem rankBelow_spec (count : Nat) :
    units (rankBelow count) ≤ count ∧ count < units (rankBelow count + 1) := by
  by_cases hfirst : count < Nat.pow 2 52
  · have hscale : count.log2 - 52 = 0 := by
      by_cases hzero : count = 0
      · rw [hzero]
        rfl
      · have hlog : count.log2 < 52 := (Nat.log2_lt hzero).mpr hfirst
        omega
    have hrank : rankBelow count = count := by
      rw [rankBelow, hscale]
      simp
    rw [hrank, units_first (Nat.le_of_lt hfirst), units_first hfirst]
    exact ⟨Nat.le_refl count, Nat.lt_succ_self count⟩
  · obtain ⟨run, place, hplace, hquotient, hrank⟩ := rankBelow_later (Nat.not_lt.mp hfirst)
    have hpower : 0 < Nat.pow 2 run := Nat.two_pow_pos run
    rw [hrank, Nat.add_assoc, units_later run (Nat.le_of_lt hplace), units_later run hplace]
    constructor
    · rw [← hquotient]
      exact Nat.div_mul_le_self count _
    · rw [← Nat.div_lt_iff_lt_mul hpower, hquotient]
      omega

/-- **`le_rankBelow_iff`** — the ranks of at most so many units are those up to the one found. -/
theorem le_rankBelow_iff {rank count : Nat} : rank ≤ rankBelow count ↔ units rank ≤ count := by
  obtain ⟨hlow, hhigh⟩ := rankBelow_spec count
  constructor
  · intro h
    exact Nat.le_trans (units_strictMono.le_iff_le.mpr h) hlow
  · intro h
    exact Nat.lt_succ_iff.mp (units_strictMono.lt_iff_lt.mp (Nat.lt_of_le_of_lt h hhigh))

theorem rankBelow_units (rank : Nat) : rankBelow (units rank) = rank := by
  apply Nat.le_antisymm
  · exact units_strictMono.le_iff_le.mp (rankBelow_spec (units rank)).1
  · exact le_rankBelow_iff.mpr (Nat.le_refl _)

/-! ## §B Rounding -/

/-- Rounding depends on the quotient alone. -/
theorem nearest_mul_mul {k : Nat} (hk : 0 < k) (num den : Nat) :
    nearest (k * num) (k * den) = nearest num den := by
  have hrank : nearestRank (k * num) (k * den) = nearestRank num den := by
    have htwice : 2 * (k * num) = k * (2 * num) := Nat.mul_left_comm 2 k num
    have hmidpoint : ∀ midpoint, midpoint * (k * den) = k * (midpoint * den) :=
      fun midpoint => Nat.mul_left_comm midpoint k den
    simp only [nearestRank, Nat.mul_div_mul_left num den hk, htwice, hmidpoint,
      Nat.mul_lt_mul_left hk]
  rw [nearest, nearest]
  simp only [hrank]

/-- **`nearest_units_mul`** — a magnitude is the nearest one to itself. -/
theorem nearest_units_mul (m : Magnitude) {k : Nat} (hk : 0 < k) :
    nearest (units m * k) k = m := by
  have hbelow : rankBelow (units m * k / k) = m := by
    rw [Nat.mul_div_cancel _ hk, rankBelow_units]
  have hmidpoint : 2 * (units m * k) < (units m + units (m + 1)) * k := by
    rw [← Nat.mul_assoc, Nat.two_mul]
    exact Nat.mul_lt_mul_of_pos_right (Nat.add_lt_add_left (units_lt_succ m) _) hk
  have hrank : nearestRank (units m * k) k = m := by
    simp only [nearestRank, hbelow, hmidpoint, if_true]
  apply Fin.ext
  show min (nearestRank (units m * k) k) infinityRank = m
  rw [hrank]
  exact Nat.min_eq_left (Nat.lt_succ_iff.mp m.isLt)

/-- Less than half a unit is nearest to zero. -/
theorem nearest_eq_zero {num den : Nat} (h : 2 * num < den) : nearest num den = zeroMagnitude := by
  have hquotient : num / den = 0 := Nat.div_eq_of_lt (by omega)
  have hbelow : rankBelow 0 = 0 := rfl
  have hmidpoint : 2 * num < (units 0 + units (0 + 1)) * den := by
    rw [units_first (Nat.zero_le _), units_first (by decide)]
    omega
  have hrank : nearestRank num den = 0 := by
    simp only [nearestRank, hquotient, hbelow, hmidpoint, if_true]
  apply Fin.ext
  show min (nearestRank num den) infinityRank = 0
  rw [hrank]
  exact Nat.zero_min _

/-- As many units as infinity has, or more, are infinite. -/
theorem nearest_eq_infinity {num den : Nat} (hden : 0 < den)
    (h : units infinityRank * den ≤ num) : nearest num den = infinity := by
  have hbelow : infinityRank ≤ rankBelow (num / den) :=
    le_rankBelow_iff.mpr ((Nat.le_div_iff_mul_le hden).mpr h)
  have hrank : infinityRank ≤ nearestRank num den := by
    unfold nearestRank
    dsimp only
    split
    · exact hbelow
    · split <;> omega
  apply Fin.ext
  exact Nat.min_eq_right hrank

/-! ## §C Decimals -/

theorem pow_ten_pos (e : Nat) : 0 < Nat.pow 10 e := Nat.pow_pos (by decide)

theorem pow_ten_mono {e f : Nat} (h : e ≤ f) : Nat.pow 10 e ≤ Nat.pow 10 f :=
  Nat.pow_le_pow_right (by decide) h

theorem pow_ten_add (e f : Nat) : Nat.pow 10 (e + f) = Nat.pow 10 e * Nat.pow 10 f :=
  Nat.pow_add 10 e f

theorem unitsOfOne_small : 2 * unitsOfOne ≤ Nat.pow 10 324 := by decide +kernel

theorem units_infinityRank_small : units infinityRank ≤ Nat.pow 10 309 * unitsOfOne := by
  decide +kernel

/-- Where `10 ^ e` is two ones or more in units, what is below `10 ^ -e` is less than half a unit. -/
theorem vanishing_lt {digits width places e : Nat} (hunits : 2 * unitsOfOne ≤ Nat.pow 10 e)
    (h : digits < Nat.pow 10 width) (hplaces : width + e ≤ places) :
    2 * (digits * unitsOfOne) < Nat.pow 10 places := by
  calc 2 * (digits * unitsOfOne)
      = digits * (2 * unitsOfOne) := Nat.mul_left_comm 2 digits _
    _ ≤ digits * Nat.pow 10 e := Nat.mul_le_mul_left digits hunits
    _ < Nat.pow 10 width * Nat.pow 10 e := Nat.mul_lt_mul_of_pos_right h (pow_ten_pos e)
    _ = Nat.pow 10 (width + e) := (pow_ten_add width e).symm
    _ ≤ Nat.pow 10 places := pow_ten_mono hplaces

/-- Where `10 ^ e` is as great as infinity, so is every positive whole multiple of it. -/
theorem infinite_le {digits exponent e : Nat}
    (hunits : units infinityRank ≤ Nat.pow 10 e * unitsOfOne) (hdigits : digits ≠ 0)
    (h : e ≤ exponent) : units infinityRank ≤ digits * Nat.pow 10 exponent * unitsOfOne := by
  have hpower : Nat.pow 10 e ≤ digits * Nat.pow 10 exponent :=
    Nat.le_trans (pow_ten_mono h) (Nat.le_mul_of_pos_left _ (Nat.pos_of_ne_zero hdigits))
  exact Nat.le_trans hunits (Nat.mul_le_mul_right unitsOfOne hpower)

/-- **`ofDecimal_eq_nearest`** — a decimal of no more digits than said is rounded to the nearest
magnitude. -/
theorem ofDecimal_eq_nearest {digits width : Nat} (h : digits < Nat.pow 10 width)
    (exponent : Int) :
    ofDecimal digits width exponent
      = nearest (digits * Nat.pow 10 exponent.toNat * unitsOfOne)
          (Nat.pow 10 (-exponent).toNat) := by
  have hone : Nat.pow 10 0 = 1 := rfl
  unfold ofDecimal vanishingExponent infiniteExponent
  split
  case isTrue hsmall =>
    refine (nearest_eq_zero ?_).symm
    -- no digits, or all of them too far below the least magnitude
    rcases hsmall with hzero | hvanishing
    · rw [hzero, Nat.zero_mul, Nat.zero_mul]
      exact pow_ten_pos _
    · have hexponent : exponent.toNat = 0 := by omega
      rw [hexponent, hone, Nat.mul_one]
      exact vanishing_lt unitsOfOne_small h (by omega)
  case isFalse hlarge =>
    have hdigits : digits ≠ 0 := fun hzero => hlarge (.inl hzero)
    split
    case isTrue hinfinite =>
      have hplaces : (-exponent).toNat = 0 := by omega
      rw [hplaces, hone]
      refine (nearest_eq_infinity Nat.one_pos ?_).symm
      rw [Nat.mul_one]
      exact infinite_le units_infinityRank_small hdigits (by omega)
    case isFalse =>
      split
      case isTrue hwhole =>
        have hplaces : (-exponent).toNat = 0 := by omega
        rw [hplaces, hone]
      case isFalse hfraction =>
        have hexponent : exponent.toNat = 0 := by omega
        rw [hexponent, hone, Nat.mul_one]

end DomainFilter.Binary64
