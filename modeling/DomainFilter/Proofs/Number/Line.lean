/-
# DomainFilter.Proofs.Number.Line — numbers in the order of their values

Comparing numbers is comparing the ranks of their magnitudes. The value of a finite number is a whole
multiple of `2 ^ -1074`, so the numbers lie on the line of the integers, with an infinity at each end.

* §A **`units_strictMono`** — a higher rank has more units, from one run of ranks to the next as well.
* §B `Binary64.onLine?`, and **`compare?_of_onLine?`** — numbers compare as their places on the line
  do. The two zeros have the same place, and not-a-number has none.

BOUNDARY: the format has no rank above infinity, so the units that `units` counts there, as if the
format went on, stand for nothing.
-/
import Mathlib
import DomainFilter.Number.Binary64

namespace DomainFilter

namespace Binary64

/-! ## §A Ranks and units -/

/-- In the first run of ranks a rank has as many units, and at its end as well. -/
theorem units_first {place : Nat} (h : place ≤ Nat.pow 2 52) : units place = place := by
  have hscale : place / Nat.pow 2 52 - 1 = 0 := by
    simp only [Nat.pow_eq, Nat.reducePow] at *
    omega
  unfold units
  simp [hscale]

/-- In a later run neighbours are twice as far apart as in the run before, up to its end. -/
theorem units_later (run : Nat) {place : Nat} (h : place ≤ Nat.pow 2 52) :
    units ((run + 1) * Nat.pow 2 52 + place) = (Nat.pow 2 52 + place) * Nat.pow 2 run := by
  unfold units
  by_cases hend : place = Nat.pow 2 52
  · -- the end of a run is the start of the next one
    have hscale : ((run + 1) * Nat.pow 2 52 + place) / Nat.pow 2 52 - 1 = run + 1 := by
      simp only [Nat.pow_eq, Nat.reducePow] at *
      omega
    have hplace : (run + 1) * Nat.pow 2 52 + place - (run + 1) * Nat.pow 2 52 = place := by omega
    have hstep : Nat.pow 2 (run + 1) = 2 * Nat.pow 2 run := Nat.pow_succ'
    simp only [hscale, hplace, hstep]
    rw [hend, ← Nat.mul_assoc, Nat.mul_two]
  · have hscale : ((run + 1) * Nat.pow 2 52 + place) / Nat.pow 2 52 - 1 = run := by
      simp only [Nat.pow_eq, Nat.reducePow] at *
      omega
    have hplace : (run + 1) * Nat.pow 2 52 + place - run * Nat.pow 2 52
        = Nat.pow 2 52 + place := by
      simp only [Nat.pow_eq, Nat.reducePow]
      omega
    simp only [hscale, hplace]

/-- The next rank has more units. -/
theorem units_lt_succ (rank : Nat) : units rank < units (rank + 1) := by
  have hrank : rank / Nat.pow 2 52 * Nat.pow 2 52 + rank % Nat.pow 2 52 = rank :=
    Nat.div_add_mod' rank (Nat.pow 2 52)
  have hplace : rank % Nat.pow 2 52 < Nat.pow 2 52 := Nat.mod_lt rank (by decide)
  generalize rank % Nat.pow 2 52 = place at hrank hplace
  cases hrun : rank / Nat.pow 2 52 with
  | zero =>
    have hfirst : rank = place := by
      rw [hrun] at hrank
      omega
    rw [hfirst, units_first (Nat.le_of_lt hplace), units_first hplace]
    exact Nat.lt_succ_self place
  | succ run =>
    rw [hrun] at hrank
    rw [← hrank, Nat.add_assoc, units_later run (Nat.le_of_lt hplace), units_later run hplace]
    exact Nat.mul_lt_mul_of_pos_right (by omega) (Nat.two_pow_pos run)

/-- **`units_strictMono`** — magnitudes are in the order of their ranks. -/
theorem units_strictMono : StrictMono units := strictMono_nat_of_lt_succ units_lt_succ

/-- A magnitude with a sign, as a number of units. -/
def signedUnits (negative : Bool) (m : Magnitude) : Int :=
  if negative then -(units m : Int) else units m

/-- Finite numbers are in the order of their signed units: below zero the order turns around. -/
theorem signedUnits_lt_iff {s t : Bool} {m n : Magnitude} :
    signedUnits s m < signedUnits t n ↔ position s m < position t n := by
  have hbelow : units m < units n ↔ m.val < n.val := units_strictMono.lt_iff_lt
  have habove : units n < units m ↔ n.val < m.val := units_strictMono.lt_iff_lt
  have hzero : units 0 = 0 := units_first (Nat.zero_le _)
  have hm : units 0 < units m ↔ 0 < m.val := units_strictMono.lt_iff_lt
  have hn : units 0 < units n ↔ 0 < n.val := units_strictMono.lt_iff_lt
  cases s <;> cases t <;> simp only [signedUnits, position, if_true, Bool.false_eq_true, if_false]
    <;> omega

/-! ## §B The line of numbers -/

/-- The integers, in units of `2 ^ -1074`, with an infinity at each end. -/
abbrev Line : Type := WithBot (WithTop Int)

/-- The place of a signed magnitude on the line. -/
def place (negative : Bool) (m : Magnitude) : Line :=
  if m = infinity then (if negative then ⊥ else ⊤)
  else ((signedUnits negative m : WithTop Int) : Line)

/-- The place of a number on the line; not-a-number has none. -/
def onLine? : Binary64 → Option Line
  | .nan => none
  | .signed negative m => some (place negative m)

theorem place_infinity (negative : Bool) :
    place negative infinity = if negative then ⊥ else ⊤ := if_pos rfl

theorem place_of_finite {m : Magnitude} (h : m ≠ infinity) (negative : Bool) :
    place negative m = ((signedUnits negative m : WithTop Int) : Line) := if_neg h

/-- The places of finite numbers are between the infinities. -/
theorem place_between {m : Magnitude} (h : m ≠ infinity) (negative : Bool) :
    ⊥ < place negative m ∧ place negative m < ⊤ := by
  rw [place_of_finite h]
  exact ⟨WithBot.bot_lt_coe _, WithBot.coe_lt_coe.mpr (WithTop.coe_lt_top _)⟩

/-- So are their ranks. -/
theorem position_between {m : Magnitude} (h : m ≠ infinity) (negative : Bool) :
    position true infinity < position negative m
      ∧ position negative m < position false infinity := by
  have hrank : m.val ≠ infinityRank := fun heq => h (Fin.ext heq)
  have hmost := m.isLt
  show -(infinityRank : Int) < position negative m ∧ position negative m < infinityRank
  unfold position
  split <;> omega

/-- **`place_lt_iff`** — places on the line are in the order of the signed ranks. -/
theorem place_lt_iff {s t : Bool} {m n : Magnitude} :
    place s m < place t n ↔ position s m < position t n := by
  by_cases hm : m = infinity
  · subst hm
    by_cases hn : n = infinity
    · subst hn
      cases s <;> cases t <;> decide +kernel
    · obtain ⟨hplaceLow, hplaceHigh⟩ := place_between hn t
      obtain ⟨hlow, hhigh⟩ := position_between hn t
      rw [place_infinity]
      cases s with
      | false => exact iff_of_false (lt_asymm hplaceHigh) (lt_asymm hhigh)
      | true => exact iff_of_true hplaceLow hlow
  · obtain ⟨hplaceLow, hplaceHigh⟩ := place_between hm s
    obtain ⟨hlow, hhigh⟩ := position_between hm s
    by_cases hn : n = infinity
    · subst hn
      rw [place_infinity]
      cases t with
      | false => exact iff_of_true hplaceHigh hhigh
      | true => exact iff_of_false (lt_asymm hplaceLow) (lt_asymm hlow)
    · rw [place_of_finite hm, place_of_finite hn, WithBot.coe_lt_coe, WithTop.coe_lt_coe,
        signedUnits_lt_iff]

theorem compare_place (s t : Bool) (m n : Magnitude) :
    compare (place s m) (place t n) = compare (position s m) (position t n) := by
  rcases lt_trichotomy (position s m) (position t n) with h | h | h
  · rw [compare_lt_iff_lt.mpr h, compare_lt_iff_lt.mpr (place_lt_iff.mpr h)]
  · have hplace : place s m = place t n := by
      apply le_antisymm
      · exact not_lt.mp fun hlt => (place_lt_iff.mp hlt).ne' h
      · exact not_lt.mp fun hlt => (place_lt_iff.mp hlt).ne h
    rw [compare_eq_iff_eq.mpr h, compare_eq_iff_eq.mpr hplace]
  · rw [compare_gt_iff_gt.mpr h, compare_gt_iff_gt.mpr (place_lt_iff.mpr h)]

/-- **`compare?_of_onLine?`** — numbers compare as their places on the line do. -/
theorem compare?_of_onLine? {x y : Binary64} {a b : Line} (hx : x.onLine? = some a)
    (hy : y.onLine? = some b) : x.compare? y = some (compare a b) := by
  cases x with
  | nan => cases hx
  | signed s m =>
    cases y with
    | nan => cases hy
    | signed t n =>
      cases hx
      cases hy
      rw [compare_place]
      rfl

/-- Every number but not-a-number is on the line. -/
theorem exists_onLine? {x : Binary64} (h : x ≠ .nan) : ∃ a, x.onLine? = some a := by
  cases x with
  | nan => exact absurd rfl h
  | signed negative m => exact ⟨place negative m, rfl⟩

/-- Both zeros are at zero. -/
example (negative : Bool) :
    onLine? (.signed negative zeroMagnitude) = some ((0 : Int) : WithTop Int) := by
  cases negative <;> decide +kernel

end Binary64

end DomainFilter
