/-
# DomainFilter.Proofs.Calendar.Period — periods as intervals of days

The periods of a unit are numbered: days and years by themselves, weeks by their Mondays, months
from January of year 0. Each starts right after the one before it ends, so a period is the interval
of days from its start up to the start of the next, and every day is in exactly one.

* §A Months as intervals of days.
* §B `periodStart`, `periodIndex`, and **`periodIndex_eq_iff`** — a day is in the period of its
  index and in no other.
* §C **`samePeriod_iff`** — two dates are in the same week, month or year exactly if their days have
  the same index.
* §D `boundDay`, the first or the last day of that interval, and how far from a day it can be.
* §E **`periodBound_eq_reached?`** — the bound that the calendar arithmetic finds is that day, unless
  a day on the way to it is outside the calendar; **`BetweenYears.periodBound_eq`** — none is, for a
  day whose year is not one of the outermost.
-/
import DomainFilter.Calendar.Period
import DomainFilter.Proofs.Calendar.Civil

namespace DomainFilter

namespace Calendar

open CivilDate (daysBefore)

/-! ## §A Months -/

/-- The day on which a month starts, the months counted from January of year 0. -/
def startOfMonth (months : Int) : Int := CivilDate.toDay ⟨months / 12, (months % 12).toNat + 1, 1⟩

theorem startOfMonth_eq (months : Int) :
    startOfMonth months
      = startOfYear (months / 12) + daysBefore (months / 12) ((months % 12).toNat + 1) := by
  rw [startOfMonth, CivilDate.toDay_eq]
  dsimp only
  omega

/-- A month starts where the one before it ends, also after a December. -/
theorem startOfMonth_succ (months : Int) :
    startOfMonth (months + 1)
      = startOfMonth months + monthLength (months / 12) ((months % 12).toNat + 1) := by
  have hstep := CivilDate.daysBefore_succ (Nat.le_add_left 1 (months % 12).toNat) (months / 12)
  rw [startOfMonth_eq, startOfMonth_eq]
  by_cases hdecember : months % 12 = 11
  · -- after a December comes the January of the next year
    have hyear : (months + 1) / 12 = months / 12 + 1 := by omega
    have hmonth : (months + 1) % 12 = 0 := by omega
    have hjanuary : daysBefore (months / 12 + 1) ((0 : Int).toNat + 1) = 0 := rfl
    have htwelve : (months % 12).toNat = 11 := by omega
    have hfull : daysBefore (months / 12) (11 + 1 + 1) = yearLength (months / 12) :=
      CivilDate.daysBefore_thirteen (months / 12)
    rw [hyear, hmonth, hjanuary, startOfYear_succ, htwelve]
    rw [htwelve, hfull] at hstep
    omega
  · have hyear : (months + 1) / 12 = months / 12 := by omega
    have hmonth : ((months + 1) % 12).toNat = (months % 12).toNat + 1 := by omega
    rw [hyear, hmonth, hstep]
    omega

/-! ## §B Numbered periods -/

/-- The number of the period that a day is in. -/
def periodIndex : PeriodUnit → Int → Int
  | .day, day => day
  | .week, day => (day + 5) / 7
  | .month, day => (CivilDate.ofDay day).year * 12 + ((CivilDate.ofDay day).month - 1 : Nat)
  | .year, day => (CivilDate.ofDay day).year

/-- The day on which the period of a number starts. -/
def periodStart : PeriodUnit → Int → Int
  | .day, index => index
  | .week, index => 7 * index - 5
  | .month, index => startOfMonth index
  | .year, index => startOfYear index

/-- The days that a period has at most. -/
def longestPeriod : PeriodUnit → Int
  | .day => 1
  | .week => 7
  | .month => 31
  | .year => 366

theorem periodStart_succ_bounds (unit : PeriodUnit) (index : Int) :
    periodStart unit index < periodStart unit (index + 1)
      ∧ periodStart unit (index + 1) ≤ periodStart unit index + longestPeriod unit := by
  cases unit with
  | day => simp only [periodStart, longestPeriod]; omega
  | week => simp only [periodStart, longestPeriod]; omega
  | month =>
    have hlength := monthLength_bounds (index / 12) ((index % 12).toNat + 1)
      (by omega) (by omega)
    simp only [periodStart, longestPeriod, startOfMonth_succ]
    omega
  | year =>
    have hlength : 365 ≤ yearLength index ∧ yearLength index ≤ 366 := by
      unfold yearLength
      split <;> decide
    simp only [periodStart, longestPeriod, startOfYear_succ]
    omega

/-- Periods start in the order of their numbers. -/
theorem periodStart_lt_iff {unit : PeriodUnit} {index later : Int} :
    periodStart unit index < periodStart unit later ↔ index < later := by
  have hnext : ∀ index, periodStart unit index < periodStart unit (index + 1) :=
    fun index => (periodStart_succ_bounds unit index).1
  exact (strictMono_int_of_lt_succ hnext).lt_iff_lt

theorem periodStart_mono {unit : PeriodUnit} {index later : Int} (h : index ≤ later) :
    periodStart unit index ≤ periodStart unit later := by
  rw [← not_lt, periodStart_lt_iff]
  exact not_lt.mpr h

/-- The start of a date's month is that of the date's year, and the months before it. -/
theorem startOfMonth_of_valid {date : CivilDate} (h : date.IsValid) :
    startOfMonth (date.year * 12 + (date.month - 1 : Nat))
      = startOfYear date.year + daysBefore date.year date.month := by
  obtain ⟨hfirst, hlast, -⟩ := CivilDate.isValid_iff.mp h
  have hyear : (date.year * 12 + (date.month - 1 : Nat)) / 12 = date.year := by omega
  have hmonth : ((date.year * 12 + (date.month - 1 : Nat)) % 12).toNat + 1 = date.month := by omega
  rw [startOfMonth_eq, hyear, hmonth]

/-- **`periodIndex_spec`** — a day is in the period of its index. -/
theorem periodIndex_spec (unit : PeriodUnit) (day : Int) :
    periodStart unit (periodIndex unit day) ≤ day
      ∧ day < periodStart unit (periodIndex unit day + 1) := by
  cases unit with
  | day => simp only [periodStart, periodIndex]; omega
  | week => simp only [periodStart, periodIndex]; omega
  | month =>
    have hvalid := CivilDate.isValid_ofDay day
    have hstart := hvalid.le_toDay
    have hend := hvalid.toDay_lt
    have hfirst := (CivilDate.isValid_iff.mp hvalid).1
    have hlast := (CivilDate.isValid_iff.mp hvalid).2.1
    rw [CivilDate.toDay_ofDay] at hstart hend
    simp only [periodStart, periodIndex]
    generalize CivilDate.ofDay day = date at *
    have hyear : (date.year * 12 + (date.month - 1 : Nat)) / 12 = date.year := by omega
    have hmonth : ((date.year * 12 + (date.month - 1 : Nat)) % 12).toNat + 1 = date.month := by
      omega
    rw [startOfMonth_succ, startOfMonth_of_valid hvalid, hyear, hmonth]
    exact ⟨hstart, hend⟩
  | year => exact yearOf_spec day

/-- **`periodIndex_eq_iff`** — a day has the index of the period that it is in. -/
theorem periodIndex_eq_iff {unit : PeriodUnit} {day index : Int} :
    periodIndex unit day = index ↔
      periodStart unit index ≤ day ∧ day < periodStart unit (index + 1) := by
  constructor
  · rintro rfl
    exact periodIndex_spec unit day
  · rintro ⟨hstart, hend⟩
    obtain ⟨hstart', hend'⟩ := periodIndex_spec unit day
    have hle : periodIndex unit day < index + 1 :=
      periodStart_lt_iff.mp (lt_of_le_of_lt hstart' hend)
    have hge : index < periodIndex unit day + 1 :=
      periodStart_lt_iff.mp (lt_of_le_of_lt hstart hend')
    omega

/-! ## §C Dates of the same period -/

/-- The Monday of the week that a day is in. -/
def mondayOf (day : Int) : Int := day - weekday day

/-- Two dates are the same day, or in the same week from Monday to Sunday, month or year. -/
def SamePeriod : PeriodUnit → CivilDate → CivilDate → Prop
  | .day, d, e => d = e
  | .week, d, e => mondayOf d.toDay = mondayOf e.toDay
  | .month, d, e => d.year = e.year ∧ d.month = e.month
  | .year, d, e => d.year = e.year

instance (unit : PeriodUnit) (d e : CivilDate) : Decidable (SamePeriod unit d e) :=
  match unit with
  | .day => inferInstanceAs (Decidable (d = e))
  | .week => inferInstanceAs (Decidable (mondayOf d.toDay = mondayOf e.toDay))
  | .month => inferInstanceAs (Decidable (d.year = e.year ∧ d.month = e.month))
  | .year => inferInstanceAs (Decidable (d.year = e.year))

/-- **`samePeriod_iff`** — dates are in the same period exactly if its number is that of both. -/
theorem samePeriod_iff {unit : PeriodUnit} {d e : CivilDate} (hd : d.IsValid) (he : e.IsValid) :
    SamePeriod unit d e ↔ periodIndex unit d.toDay = periodIndex unit e.toDay := by
  cases unit with
  | day =>
    simp only [SamePeriod, periodIndex]
    constructor
    · rintro rfl
      rfl
    · intro h
      rw [← CivilDate.ofDay_toDay hd, h, CivilDate.ofDay_toDay he]
  | week =>
    simp only [SamePeriod, periodIndex, mondayOf, weekday]
    omega
  | month =>
    have hdMonth := CivilDate.isValid_iff.mp hd
    have heMonth := CivilDate.isValid_iff.mp he
    simp only [SamePeriod, periodIndex, CivilDate.ofDay_toDay hd, CivilDate.ofDay_toDay he]
    omega
  | year =>
    simp only [SamePeriod, periodIndex, CivilDate.ofDay_toDay hd, CivilDate.ofDay_toDay he]

/-! ## §D The bounds of a period -/

/-- The first or the last day of a period, counted from the one of the day `today`. -/
def boundDay (unit : PeriodUnit) (shift : PeriodShift) (bound : PeriodBound) (today : Int) : Int :=
  match bound with
  | .first => periodStart unit (periodIndex unit today + shiftOffset shift)
  | .last => periodStart unit (periodIndex unit today + shiftOffset shift + 1) - 1

/-- A day whose year has two more on both sides in the calendar. -/
def WellInside (day : Int) : Prop := -262141 ≤ yearOf day ∧ yearOf day ≤ 262140

theorem firstDay_eq : firstDay = -95745764 := rfl

theorem lastDay_eq : lastDay = 95745764 := rfl

theorem inCalendar_iff {day : Int} : inCalendar day = true ↔ firstDay ≤ day ∧ day ≤ lastDay := by
  simp [inCalendar]

theorem checked?_eq_some {day : Int} (hfirst : firstDay ≤ day) (hlast : day ≤ lastDay) :
    checked? day = some day :=
  if_pos (inCalendar_iff.mpr ⟨hfirst, hlast⟩)

/-- A day whose year is between two other years of the calendar. -/
def BetweenYears (day : Int) : Prop := -262142 ≤ yearOf day ∧ yearOf day ≤ 262141

theorem WellInside.betweenYears {day : Int} (h : WellInside day) : BetweenYears day := by
  obtain ⟨hlow, hhigh⟩ := h
  exact ⟨by omega, by omega⟩

/-- The periods around a day that are shorter than a year start a season or less away from it. -/
theorem periodStart_near {unit : PeriodUnit} (hunit : unit ≠ .year) (day index : Int)
    (hlow : periodIndex unit day - 1 ≤ index) (hhigh : index ≤ periodIndex unit day + 2) :
    day - 100 ≤ periodStart unit index ∧ periodStart unit index ≤ day + 100 := by
  have hshort : longestPeriod unit ≤ 31 := by
    cases unit with
    | year => exact absurd rfl hunit
    | _ => decide
  have hleast : periodStart unit (periodIndex unit day - 1) ≤ periodStart unit index :=
    periodStart_mono hlow
  have hmost : periodStart unit index ≤ periodStart unit (periodIndex unit day + 1 + 1) :=
    periodStart_mono (by omega)
  obtain ⟨hperiod, hnext⟩ := periodIndex_spec unit day
  have hprevious := (periodStart_succ_bounds unit (periodIndex unit day - 1)).2
  have hthis := (periodStart_succ_bounds unit (periodIndex unit day)).2
  have hafter := (periodStart_succ_bounds unit (periodIndex unit day + 1)).2
  rw [Int.sub_add_cancel] at hprevious
  omega

theorem shiftOffset_bounds (shift : PeriodShift) :
    -1 ≤ shiftOffset shift ∧ shiftOffset shift ≤ 1 := by
  cases shift <;> decide

/-- So their bounds are no further away from it. -/
theorem boundDay_near {unit : PeriodUnit} (hunit : unit ≠ .year) (shift : PeriodShift)
    (bound : PeriodBound) (today : Int) :
    today - 101 ≤ boundDay unit shift bound today ∧ boundDay unit shift bound today ≤ today + 100 := by
  have hshift := shiftOffset_bounds shift
  have hthis := periodStart_near hunit today (periodIndex unit today + shiftOffset shift)
    (by omega) (by omega)
  have hnext := periodStart_near hunit today (periodIndex unit today + shiftOffset shift + 1)
    (by omega) (by omega)
  cases bound <;> simp only [boundDay] <;> omega

theorem add_le_startOfYear_succ (year : Int) : startOfYear year + 365 ≤ startOfYear (year + 1) := by
  rw [startOfYear_succ]
  unfold yearLength
  split <;> omega

/-- **`boundDay_between`** — the bounds of the periods around a day are in its year or in one of the
two beside it. -/
theorem boundDay_between (unit : PeriodUnit) (shift : PeriodShift) (bound : PeriodBound)
    (today : Int) :
    startOfYear (yearOf today - 1) ≤ boundDay unit shift bound today
      ∧ boundDay unit shift bound today < startOfYear (yearOf today + 1 + 1) := by
  by_cases hyear : unit = .year
  · subst hyear
    -- the numbers are the years here
    have hshift := shiftOffset_bounds shift
    have hfirst : startOfYear (yearOf today - 1) ≤ startOfYear (yearOf today + shiftOffset shift) :=
      startOfYear_mono (by omega)
    have hnext := add_le_startOfYear_succ (yearOf today + shiftOffset shift)
    have hlast : startOfYear (yearOf today + shiftOffset shift + 1)
        ≤ startOfYear (yearOf today + 1 + 1) := startOfYear_mono (by omega)
    cases bound with
    | first =>
      show startOfYear (yearOf today - 1) ≤ startOfYear (yearOf today + shiftOffset shift)
        ∧ startOfYear (yearOf today + shiftOffset shift) < startOfYear (yearOf today + 1 + 1)
      omega
    | last =>
      show startOfYear (yearOf today - 1) ≤ startOfYear (yearOf today + shiftOffset shift + 1) - 1
        ∧ startOfYear (yearOf today + shiftOffset shift + 1) - 1
          < startOfYear (yearOf today + 1 + 1)
      omega
  · obtain ⟨hlow, hhigh⟩ := boundDay_near hyear shift bound today
    obtain ⟨hstart, hend⟩ := yearOf_spec today
    have hprevious := add_le_startOfYear_succ (yearOf today - 1)
    have hfollowing := add_le_startOfYear_succ (yearOf today + 1)
    rw [Int.sub_add_cancel] at hprevious
    omega

/-- After the first two years of the calendar no bound is its first day. -/
theorem firstDay_lt_boundDay {today : Int} (h : -262141 ≤ yearOf today) (unit : PeriodUnit)
    (shift : PeriodShift) (bound : PeriodBound) : firstDay < boundDay unit shift bound today := by
  have hlow := (boundDay_between unit shift bound today).1
  have hfirst : startOfYear (-262142) ≤ startOfYear (yearOf today - 1) :=
    startOfYear_mono (by omega)
  have hfirstDay : startOfYear (-262142) = firstDay + 365 := rfl
  omega

/-- Before its last two years no bound is its last day. -/
theorem boundDay_lt_lastDay {today : Int} (h : yearOf today ≤ 262140) (unit : PeriodUnit)
    (shift : PeriodShift) (bound : PeriodBound) : boundDay unit shift bound today < lastDay := by
  have hhigh := (boundDay_between unit shift bound today).2
  have hlast : startOfYear (yearOf today + 1 + 1) ≤ startOfYear 262142 :=
    startOfYear_mono (by omega)
  have hlastDay : startOfYear 262142 + 364 = lastDay := rfl
  omega

/-- The bounds of the periods around a day between two years of the calendar are in the calendar. -/
theorem BetweenYears.boundDay_inside {today : Int} (h : BetweenYears today) (unit : PeriodUnit)
    (shift : PeriodShift) (bound : PeriodBound) :
    firstDay ≤ boundDay unit shift bound today ∧ boundDay unit shift bound today ≤ lastDay := by
  obtain ⟨hearliest, hlatest⟩ := h
  obtain ⟨hlow, hhigh⟩ := boundDay_between unit shift bound today
  have hfirst : startOfYear (-262143) ≤ startOfYear (yearOf today - 1) :=
    startOfYear_mono (by omega)
  have hlast : startOfYear (yearOf today + 1 + 1) ≤ startOfYear 262143 :=
    startOfYear_mono (by omega)
  have hfirstDay : startOfYear (-262143) = firstDay := rfl
  have hlastDay : startOfYear 262143 - 1 = lastDay := rfl
  omega

/-- Such a day is itself in the calendar: it is the first of its own period of one day. -/
theorem BetweenYears.inside {day : Int} (h : BetweenYears day) :
    firstDay ≤ day ∧ day ≤ lastDay := by
  have hday : boundDay .day .this .first day = day := Int.add_zero day
  have hinside := h.boundDay_inside .day .this .first
  rwa [hday] at hinside

/-- The month meant starts in the calendar, and the one after it does. -/
theorem BetweenYears.startOfMonth_inside {today : Int} (h : BetweenYears today)
    (shift : PeriodShift) :
    (firstDay ≤ startOfMonth (periodIndex .month today + shiftOffset shift)
        ∧ startOfMonth (periodIndex .month today + shiftOffset shift) ≤ lastDay)
      ∧ firstDay ≤ startOfMonth (periodIndex .month today + shiftOffset shift + 1)
        ∧ startOfMonth (periodIndex .month today + shiftOffset shift + 1) ≤ lastDay := by
  have hshift := shiftOffset_bounds shift
  have hfirst := h.boundDay_inside .month shift .first
  have hlast := h.boundDay_inside .month shift .last
  have hmonth : PeriodUnit.month ≠ .year := by decide
  have hnear := periodStart_near hmonth today (periodIndex .month today + shiftOffset shift + 1)
    (by omega) (by omega)
  -- the last year of the calendar is after that of the day
  have hend := (yearOf_spec today).2
  have hyear : startOfYear (yearOf today + 1) ≤ startOfYear 262142 :=
    startOfYear_mono (Int.add_le_add_right h.2 1)
  have hlastDay : startOfYear 262142 + 364 = lastDay := rfl
  simp only [boundDay, periodStart] at hfirst hlast hnear
  omega

/-- The first and the last date of a month. -/
theorem isValid_monthBound (months : Int) :
    CivilDate.IsValid ⟨months / 12, (months % 12).toNat + 1, 1⟩
      ∧ CivilDate.IsValid ⟨months / 12, (months % 12).toNat + 1,
        monthLength (months / 12) ((months % 12).toNat + 1)⟩ := by
  have hlength := monthLength_bounds (months / 12) ((months % 12).toNat + 1)
    (by omega) (by omega)
  rw [CivilDate.isValid_iff, CivilDate.isValid_iff]
  dsimp only
  omega

/-- January 1st and December 31st. -/
theorem yearBound_toDay (year : Int) :
    CivilDate.toDay ⟨year, 1, 1⟩ = startOfYear year
      ∧ CivilDate.toDay ⟨year, 12, 31⟩ = startOfYear (year + 1) - 1 := by
  have hdecember : daysBefore year 12 + 31 = yearLength year := CivilDate.daysBefore_thirteen year
  have hjanuary : daysBefore year 1 = 0 := rfl
  rw [CivilDate.toDay_eq, CivilDate.toDay_eq, startOfYear_succ]
  dsimp only
  omega

theorem isValid_yearBound (year : Int) :
    CivilDate.IsValid ⟨year, 1, 1⟩ ∧ CivilDate.IsValid ⟨year, 12, 31⟩ := by
  have hjanuary : monthLength year 1 = 31 := rfl
  have hdecember : monthLength year 12 = 31 := rfl
  rw [CivilDate.isValid_iff, CivilDate.isValid_iff]
  dsimp only
  omega

/-! ## §E What the calendar arithmetic finds -/

/-- The days on the way to a bound, with the bound itself last. -/
def daysOnTheWay (unit : PeriodUnit) (shift : PeriodShift) (bound : PeriodBound) (today : Int) :
    List Int :=
  match unit, bound with
  | .week, .last => [boundDay .week shift .first today, boundDay .week shift .last today]
  | .month, .last =>
    [boundDay .month shift .first today, boundDay .month shift .last today + 1,
      boundDay .month shift .last today]
  | unit, bound => [boundDay unit shift bound today]

/-- A day, if the way to it stays in the calendar. -/
def reached? (way : List Int) (day : Int) : Option Int :=
  if ∀ step ∈ way, inCalendar step = true then some day else none

theorem checked?_eq_reached? (day : Int) : checked? day = reached? [day] day := by
  simp only [checked?, reached?, List.forall_mem_singleton]

/-- A step of the arithmetic goes on from the day that it has checked. -/
theorem checked?_bind {day last : Int} {way : List Int} {next : Int → Option Int}
    (h : next day = reached? way last) : (checked? day).bind next = reached? (day :: way) last := by
  by_cases hday : inCalendar day = true
  · simp [checked?, reached?, hday, h]
  · simp [checked?, reached?, hday]

theorem toDay?_of_valid {date : CivilDate} (h : date.IsValid) : date.toDay? = checked? date.toDay :=
  if_pos h

theorem monthStart?_eq (months : Int) : monthStart? months = checked? (startOfMonth months) :=
  toDay?_of_valid (isValid_monthBound months).1

section

variable (shift : PeriodShift) (bound : PeriodBound) (today : Int)

/-- The day that is today, the one before or the one after is both bounds of its own period. -/
theorem dayBound_eq :
    checked? (today + shiftOffset shift)
      = reached? (daysOnTheWay .day shift bound today) (boundDay .day shift bound today) := by
  have hday : boundDay .day shift bound today = today + shiftOffset shift := by
    cases bound <;> simp only [boundDay, periodStart, periodIndex, Int.add_sub_cancel]
  have hway : daysOnTheWay .day shift bound today = [boundDay .day shift bound today] := by
    cases bound <;> rfl
  rw [hway, hday, checked?_eq_reached?]

theorem weekBound?_eq :
    weekBound? (today - weekday today) (shiftOffset shift) bound
      = reached? (daysOnTheWay .week shift bound today) (boundDay .week shift bound today) := by
  have hmonday : today - weekday today + 7 * shiftOffset shift
      = boundDay .week shift .first today := by
    simp only [boundDay, periodStart, periodIndex, weekday]
    omega
  have hsunday : boundDay .week shift .first today + 6 = boundDay .week shift .last today := by
    simp only [boundDay, periodStart]
    omega
  rw [weekBound?, hmonday]
  cases bound with
  | first =>
    dsimp only
    rw [checked?_eq_reached?]
    exact Option.bind_fun_some _
  | last =>
    refine checked?_bind ?_
    dsimp only
    rw [hsunday, checked?_eq_reached?]

theorem monthBound?_eq :
    monthBound? (periodIndex .month today + shiftOffset shift) bound
      = reached? (daysOnTheWay .month shift bound today) (boundDay .month shift bound today) := by
  have hnext : startOfMonth (periodIndex .month today + shiftOffset shift + 1)
      = boundDay .month shift .last today + 1 := by
    simp only [boundDay, periodStart, Int.sub_add_cancel]
  cases bound with
  | first =>
    rw [monthBound?, monthStart?_eq, checked?_eq_reached?]
    rfl
  | last =>
    -- the last day is looked for only if the month itself and the one after it start
    rw [monthBound?, monthStart?_eq, monthStart?_eq, hnext]
    refine checked?_bind (checked?_bind ?_)
    rw [Int.add_sub_cancel, checked?_eq_reached?]

theorem yearBound?_eq :
    yearBound? (periodIndex .year today + shiftOffset shift) bound
      = reached? (daysOnTheWay .year shift bound today) (boundDay .year shift bound today) := by
  obtain ⟨hjanuary, hdecember⟩ := isValid_yearBound (periodIndex .year today + shiftOffset shift)
  obtain ⟨hfirst, hlast⟩ := yearBound_toDay (periodIndex .year today + shiftOffset shift)
  cases bound with
  | first =>
    rw [yearBound?, toDay?_of_valid hjanuary, hfirst, checked?_eq_reached?]
    rfl
  | last =>
    rw [yearBound?, toDay?_of_valid hdecember, hlast, checked?_eq_reached?]
    rfl

/-- **`periodBound_eq_reached?`** — the arithmetic gives the bound of the period if the days on the way to it
are in the calendar, and no day if one of them is not. For a bound of a week it needs the Monday of
this week first. -/
theorem periodBound_eq_reached? {unit : PeriodUnit}
    (h : unit = .week → inCalendar (today - weekday today) = true) :
    periodBound unit shift bound today
      = .ok (reached? (daysOnTheWay unit shift bound today) (boundDay unit shift bound today)) := by
  cases unit with
  | day => exact congrArg Except.ok (dayBound_eq shift bound today)
  | week =>
    have hmonday : checked? (today - weekday today) = some (today - weekday today) := if_pos (h rfl)
    rw [periodBound, hmonday, ← weekBound?_eq]
  | month => exact congrArg Except.ok (monthBound?_eq shift bound today)
  | year => exact congrArg Except.ok (yearBound?_eq shift bound today)

end

/-- Between two years of the calendar the bounds of a period are the day on which it starts and the
day before the next one does. -/
theorem BetweenYears.periodBound_eq {today : Int} (h : BetweenYears today) (shift : PeriodShift)
    (bound : PeriodBound) (unit : PeriodUnit) :
    periodBound unit shift bound today = .ok (some (boundDay unit shift bound today)) := by
  have hmonday : boundDay .week .this .first today = today - weekday today := by
    simp only [boundDay, periodStart, periodIndex, shiftOffset, weekday]
    omega
  have hinside : ∀ unit bound, inCalendar (boundDay unit shift bound today) = true :=
    fun unit bound => inCalendar_iff.mpr (h.boundDay_inside unit shift bound)
  have hmonth : inCalendar (boundDay .month shift .last today + 1) = true := by
    have hnext := (h.startOfMonth_inside shift).2
    rw [inCalendar_iff]
    simp only [boundDay, periodStart, Int.sub_add_cancel]
    exact hnext
  have hway : ∀ step ∈ daysOnTheWay unit shift bound today, inCalendar step = true := by
    cases unit <;> cases bound <;>
      simp only [daysOnTheWay, List.forall_mem_cons, List.not_mem_nil, false_implies, implies_true,
        hinside, hmonth, and_self]
  rw [periodBound_eq_reached?, reached?, if_pos hway]
  intro _
  rw [← hmonday]
  exact inCalendar_iff.mpr (h.boundDay_inside .week .this .first)

end Calendar

end DomainFilter
