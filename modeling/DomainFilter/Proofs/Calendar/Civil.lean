/-
# DomainFilter.Proofs.Calendar.Civil — days and civil dates name each other

A day is an integer, a civil date a year, a month and a day of the month. Going from the one to the
other and back changes nothing, and days are in the order of their dates.

* §A Lengths in a row: how many of them a number of days uses up, and what is left over.
* §B Years: each starts right after the one before it, and `yearOf` finds the one a day is in. The
  estimate by the average length of a year is off by one at most.
* §C **`toDay_ofDay`** and **`ofDay_toDay`** — every day has a date that exists, and every date that
  exists is the date of its day.
* §D **`compare_toDay`** — days compare like year, month and day of the month, in this order.
-/
import Mathlib.Data.List.GetD
import Mathlib.Order.Monotone.Basic
import Mathlib.Order.Compare
import DomainFilter.Calendar.Civil

namespace DomainFilter

namespace Calendar

/-! ## §A Lengths in a row -/

/-- All of the lengths together. -/
def total (lengths : List Nat) : Nat := lengths.foldr (· + ·) 0

theorem total_take_succ (lengths : List Nat) (n : Nat) :
    total (lengths.take (n + 1)) = total (lengths.take n) + lengths.getD n 0 := by
  induction lengths generalizing n with
  | nil => simp [total]
  | cons length lengths ih =>
    cases n with
    | zero => simp [total]
    | succ n =>
      have hrest := ih n
      simp only [total, List.take_succ_cons, List.foldr_cons, List.getD_cons_succ] at hrest ⊢
      omega

theorem total_take_mono (lengths : List Nat) {m n : Nat} (h : m ≤ n) :
    total (lengths.take m) ≤ total (lengths.take n) := by
  induction n, h using Nat.le_induction with
  | base => exact Nat.le_refl _
  | succ n _ ih =>
    rw [total_take_succ]
    omega

/-- What is used up and what is left over make up the days, if there are lengths enough. -/
theorem passLengths_spec {lengths : List Nat} {days : Nat} (h : days < total lengths) :
    (passLengths lengths days).1 < lengths.length
      ∧ (passLengths lengths days).2 < lengths.getD (passLengths lengths days).1 0
      ∧ total (lengths.take (passLengths lengths days).1) + (passLengths lengths days).2 = days := by
  induction lengths generalizing days with
  | nil => simp [total] at h
  | cons length lengths ih =>
    by_cases hfirst : days < length
    · simp [passLengths, hfirst, total]
    · have hrest : days - length < total lengths := by
        simp only [total, List.foldr_cons] at h ⊢
        omega
      obtain ⟨hbound, hleft, hsum⟩ := ih hrest
      simp only [passLengths, hfirst, if_false, total, List.length_cons, List.getD_cons_succ,
        List.take_succ_cons, List.foldr_cons] at hsum ⊢
      omega

/-- Days that reach into one of the lengths use up those before it. -/
theorem passLengths_total_take_add {lengths : List Nat} {n left : Nat}
    (h : left < lengths.getD n 0) :
    passLengths lengths (total (lengths.take n) + left) = (n, left) := by
  induction lengths generalizing n with
  | nil => simp at h
  | cons length lengths ih =>
    cases n with
    | zero =>
      have hfirst : left < length := h
      simp [passLengths, total, hfirst]
    | succ n =>
      have hrest := ih (n := n) h
      have hpast : ¬ length + total (lengths.take n) + left < length := by omega
      have hsub : length + total (lengths.take n) + left - length
          = total (lengths.take n) + left := by omega
      have htotal : total ((length :: lengths).take (n + 1)) = length + total (lengths.take n) := rfl
      rw [htotal, passLengths, if_neg hpast, hsub, hrest]

/-! ## §B Years -/

/-- The days of a year. -/
def yearLength (year : Int) : Nat := if isLeap year then 366 else 365

/-- The days of a month. -/
def monthLength (year : Int) (month : Nat) : Nat := (monthLengths year).getD (month - 1) 0

/-- Every month has from 28 to 31 days. -/
theorem monthLength_bounds (year : Int) (month : Nat) (hfirst : 1 ≤ month) (hlast : month ≤ 12) :
    28 ≤ monthLength year month ∧ monthLength year month ≤ 31 := by
  have hall : ∀ length ∈ monthLengths year, 28 ≤ length ∧ length ≤ 31 := by
    unfold monthLengths
    cases isLeap year <;> decide
  have hmonth : month - 1 < (monthLengths year).length := by
    have htwelve : (monthLengths year).length = 12 := rfl
    omega
  rw [monthLength, List.getD_eq_getElem _ _ hmonth]
  exact hall _ (List.getElem_mem hmonth)

theorem total_monthLengths (year : Int) : total (monthLengths year) = yearLength year := by
  unfold monthLengths yearLength
  cases isLeap year <;> rfl

theorem isLeap_iff {year : Int} :
    isLeap year = true ↔ year % 4 = 0 ∧ (year % 100 ≠ 0 ∨ year % 400 = 0) := by
  simp [isLeap]

/-- A year starts where the one before it ends. -/
theorem startOfYear_succ (year : Int) :
    startOfYear (year + 1) = startOfYear year + yearLength year := by
  unfold startOfYear
  by_cases hleap : isLeap year = true
  · have hlength : yearLength year = 366 := if_pos hleap
    rw [isLeap_iff] at hleap
    omega
  · have hlength : yearLength year = 365 := if_neg hleap
    rw [isLeap_iff] at hleap
    omega

theorem yearLength_pos (year : Int) : 0 < yearLength year := by
  unfold yearLength
  split <;> decide

/-- Years start in their order. -/
theorem startOfYear_lt_iff {year later : Int} :
    startOfYear year < startOfYear later ↔ year < later := by
  have hnext : ∀ year, startOfYear year < startOfYear (year + 1) := by
    intro year
    have hpos := yearLength_pos year
    rw [startOfYear_succ]
    omega
  exact (strictMono_int_of_lt_succ hnext).lt_iff_lt

theorem startOfYear_mono {year later : Int} (h : year ≤ later) :
    startOfYear year ≤ startOfYear later := by
  rw [← not_lt, startOfYear_lt_iff]
  exact not_lt.mpr h

/-- **`yearOf_spec`** — a day is in its year. -/
theorem yearOf_spec (day : Int) :
    startOfYear (yearOf day) ≤ day ∧ day < startOfYear (yearOf day + 1) := by
  have hestimate : 146097 * (day * 400 / 146097) ≤ day * 400
      ∧ day * 400 < 146097 * (day * 400 / 146097) + 146097 := by omega
  unfold yearOf
  generalize day * 400 / 146097 = estimate at hestimate
  -- the estimate and its neighbours, at the average length of a year
  have hbefore : startOfYear (estimate - 1) ≤ day := by
    unfold startOfYear
    omega
  have hafter : day < startOfYear (estimate + 1 + 1) := by
    unfold startOfYear
    omega
  by_cases hlow : day < startOfYear estimate
  · simp only [hlow, if_true, Int.sub_add_cancel, hbefore, true_and]
  · by_cases hhigh : startOfYear (estimate + 1) ≤ day
    · simp only [hlow, hhigh, if_true, if_false, hafter, true_and]
    · simp only [hlow, hhigh, if_false]
      exact ⟨not_lt.mp hlow, not_le.mp hhigh⟩

theorem yearOf_eq {day year : Int} (hstart : startOfYear year ≤ day)
    (hend : day < startOfYear (year + 1)) : yearOf day = year := by
  obtain ⟨hstart', hend'⟩ := yearOf_spec day
  have hle : year < yearOf day + 1 :=
    startOfYear_lt_iff.mp (lt_of_le_of_lt hstart hend')
  have hge : yearOf day < year + 1 :=
    startOfYear_lt_iff.mp (lt_of_le_of_lt hstart' hend)
  omega

/-- A day is in a year or after it exactly if it is not before the year starts. -/
theorem le_yearOf_iff {year day : Int} : year ≤ yearOf day ↔ startOfYear year ≤ day := by
  obtain ⟨hstart, hend⟩ := yearOf_spec day
  constructor
  · intro h
    exact le_trans (startOfYear_mono h) hstart
  · intro h
    exact Int.lt_add_one_iff.mp (startOfYear_lt_iff.mp (lt_of_le_of_lt h hend))

theorem yearOf_mono {day later : Int} (h : day ≤ later) : yearOf day ≤ yearOf later :=
  le_yearOf_iff.mpr (le_trans (yearOf_spec day).1 h)

end Calendar

namespace CivilDate

open Calendar

/-! ## §C Days and dates -/

theorem daysBefore_eq (year : Int) (month : Nat) :
    daysBefore year month = total ((monthLengths year).take (month - 1)) := rfl

theorem toDay_eq (date : CivilDate) :
    date.toDay = startOfYear date.year + daysBefore date.year date.month + date.day - 1 := rfl

theorem isValid_iff {date : CivilDate} :
    date.IsValid ↔ 1 ≤ date.month ∧ date.month ≤ 12 ∧ 1 ≤ date.day
      ∧ date.day ≤ monthLength date.year date.month := Iff.rfl

theorem daysBefore_succ {month : Nat} (h : 1 ≤ month) (year : Int) :
    daysBefore year (month + 1) = daysBefore year month + monthLength year month := by
  obtain ⟨n, rfl⟩ := Nat.exists_eq_add_of_le' h
  exact total_take_succ (monthLengths year) n

theorem daysBefore_add_monthLength_le {month later : Nat} (h : 1 ≤ month) (hlater : month < later)
    (year : Int) : daysBefore year month + monthLength year month ≤ daysBefore year later := by
  rw [← daysBefore_succ h]
  exact total_take_mono (monthLengths year) (by omega)

theorem daysBefore_thirteen (year : Int) : daysBefore year 13 = yearLength year := by
  rw [← total_monthLengths]
  rfl

/-- A date is in its month. -/
theorem IsValid.toDay_lt {date : CivilDate} (h : date.IsValid) :
    date.toDay < startOfYear date.year + daysBefore date.year date.month
      + monthLength date.year date.month := by
  have hday := (isValid_iff.mp h).2.2.2
  rw [toDay_eq]
  omega

theorem IsValid.le_toDay {date : CivilDate} (h : date.IsValid) :
    startOfYear date.year + daysBefore date.year date.month ≤ date.toDay := by
  have hday := (isValid_iff.mp h).2.2.1
  rw [toDay_eq]
  omega

/-- A date is in its year. -/
theorem IsValid.startOfYear_le {date : CivilDate} (h : date.IsValid) :
    startOfYear date.year ≤ date.toDay := by
  have hmonth := h.le_toDay
  omega

theorem IsValid.lt_startOfYear {date : CivilDate} (h : date.IsValid) :
    date.toDay < startOfYear (date.year + 1) := by
  obtain ⟨hfirst, hlast, -⟩ := isValid_iff.mp h
  have hmonth := h.toDay_lt
  have hrest : daysBefore date.year date.month + monthLength date.year date.month
      ≤ daysBefore date.year 13 :=
    daysBefore_add_monthLength_le hfirst (Nat.lt_succ_of_le hlast) date.year
  rw [startOfYear_succ, ← daysBefore_thirteen]
  omega

theorem IsValid.yearOf_toDay {date : CivilDate} (h : date.IsValid) :
    yearOf date.toDay = date.year :=
  yearOf_eq h.startOfYear_le h.lt_startOfYear

/-- The days of a year before one of its days are fewer than the year has. -/
theorem sub_startOfYear_lt_total (day : Int) :
    (day - startOfYear (yearOf day)).toNat < total (monthLengths (yearOf day)) := by
  obtain ⟨hstart, hend⟩ := yearOf_spec day
  rw [startOfYear_succ] at hend
  rw [total_monthLengths]
  omega

theorem isValid_ofDay (day : Int) : (ofDay day).IsValid := by
  obtain ⟨hmonth, hleft, -⟩ := passLengths_spec (sub_startOfYear_lt_total day)
  have hlength : (monthLengths (yearOf day)).length = 12 := rfl
  rw [isValid_iff]
  simp only [ofDay, monthLength, Nat.add_sub_cancel]
  omega

/-- **`toDay_ofDay`** — the date of a day is that day. -/
theorem toDay_ofDay (day : Int) : (ofDay day).toDay = day := by
  obtain ⟨-, -, hsum⟩ := passLengths_spec (sub_startOfYear_lt_total day)
  have hstart := (yearOf_spec day).1
  simp only [toDay_eq, ofDay, daysBefore_eq, Nat.add_sub_cancel]
  omega

/-- **`ofDay_toDay`** — a date that exists is the date of its day. -/
theorem ofDay_toDay {date : CivilDate} (h : date.IsValid) : ofDay date.toDay = date := by
  obtain ⟨hmonth, -, hday, hlast⟩ := isValid_iff.mp h
  have hdays : (date.toDay - startOfYear date.year).toNat
      = total ((monthLengths date.year).take (date.month - 1)) + (date.day - 1) := by
    rw [toDay_eq, daysBefore_eq]
    omega
  have hleft : date.day - 1 < (monthLengths date.year).getD (date.month - 1) 0 := by
    rw [monthLength] at hlast
    omega
  simp only [ofDay, h.yearOf_toDay, hdays, passLengths_total_take_add hleft]
  obtain ⟨year, month, day⟩ := date
  simp only [CivilDate.mk.injEq, true_and]
  exact ⟨Nat.sub_add_cancel hmonth, Nat.sub_add_cancel hday⟩

/-! ## §D The order of dates -/

theorem toDay_lt_of_year_lt {d e : CivilDate} (hd : d.IsValid) (he : e.IsValid)
    (h : d.year < e.year) : d.toDay < e.toDay := by
  have hnext : startOfYear (d.year + 1) ≤ startOfYear e.year :=
    startOfYear_mono h
  have hend := hd.lt_startOfYear
  have hstart := he.startOfYear_le
  omega

theorem toDay_lt_of_month_lt {d e : CivilDate} (hd : d.IsValid) (he : e.IsValid)
    (hyear : d.year = e.year) (h : d.month < e.month) : d.toDay < e.toDay := by
  have hnext := daysBefore_add_monthLength_le (isValid_iff.mp hd).1 h d.year
  have hend := hd.toDay_lt
  have hstart := he.le_toDay
  rw [← hyear] at hstart
  omega

/-- **`compare_toDay`** — days are in the order of their dates: of the years, in a year of the months,
in a month of the days. -/
theorem compare_toDay {d e : CivilDate} (hd : d.IsValid) (he : e.IsValid) :
    compare d.toDay e.toDay
      = ((compare d.year e.year).then (compare d.month e.month)).then (compare d.day e.day) := by
  rcases lt_trichotomy d.year e.year with hyear | hyear | hyear
  · rw [compare_lt_iff_lt.mpr hyear]
    exact compare_lt_iff_lt.mpr (toDay_lt_of_year_lt hd he hyear)
  · rw [compare_eq_iff_eq.mpr hyear]
    rcases lt_trichotomy d.month e.month with hmonth | hmonth | hmonth
    · rw [compare_lt_iff_lt.mpr hmonth]
      exact compare_lt_iff_lt.mpr (toDay_lt_of_month_lt hd he hyear hmonth)
    · rw [compare_eq_iff_eq.mpr hmonth, toDay_eq, toDay_eq, hyear, hmonth]
      rcases lt_trichotomy d.day e.day with hday | hday | hday
      · rw [compare_lt_iff_lt.mpr hday]
        exact compare_lt_iff_lt.mpr (by omega)
      · rw [hday, compare_eq_iff_eq.mpr rfl, compare_eq_iff_eq.mpr rfl]
        rfl
      · rw [compare_gt_iff_gt.mpr hday]
        exact compare_gt_iff_gt.mpr (by omega)
    · rw [compare_gt_iff_gt.mpr hmonth]
      exact compare_gt_iff_gt.mpr (toDay_lt_of_month_lt he hd hyear.symm hmonth)
  · rw [compare_gt_iff_gt.mpr hyear]
    exact compare_gt_iff_gt.mpr (toDay_lt_of_year_lt he hd hyear)

end CivilDate

end DomainFilter
