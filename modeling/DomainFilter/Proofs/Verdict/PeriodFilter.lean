/-
# DomainFilter.Proofs.Verdict.PeriodFilter — records of this week, month or year

The filter `[[f, ">=", "date.this.week.first"], [f, "<=", "date.this.week.last"]]` asks for the
records whose date is in the week of the clock. Such a date is a text of a day, the bounds become
texts of instants in universal time, and the two are compared as texts.

* §A The filter, and the dates at the ends of a period.
* §B The days, in universal time, on which the bounds of this period fall.
* §C What the two conditions say of a date.
* §D **`evaluate_periodFilter`** — the filter keeps the dates of the period but one. Where local time
  is ahead of universal time the last day of the period begins on the day before it, which drops it.
  Elsewhere the first day begins on itself, and is dropped because its date is the shorter text.

BOUNDARY: a date from outside the years 1 to 9998 may have a bound whose text starts with a sign.
-/
import DomainFilter.Proofs.Calendar.Named
import DomainFilter.Proofs.Verdict.Instants

namespace DomainFilter

open Calendar

/-! ## §A The filter -/

/-- The array form of the filter for dates from the first to the last day of this period. -/
def periodFilter (unit : PeriodUnit) (field : String) : Value :=
  .array
    [.array [.string field, .string ">=", .string (writePeriodName .this unit .first)],
      .array [.string field, .string "<=", .string (writePeriodName .this unit .last)]]

/-- The condition that a field is on one side of a bound of this period. -/
def boundCondition (field : String) (operator : Operator) (unit : PeriodUnit)
    (bound : PeriodBound) : Condition :=
  ⟨.string field, operator, .string (writePeriodName .this unit bound)⟩

theorem Domain.ofValue_periodFilter (unit : PeriodUnit) (field : String) :
    Domain.ofValue (periodFilter unit field)
      = ⟨[⟨[boundCondition field .ge unit .first, boundCondition field .le unit .last]⟩]⟩ := rfl

namespace Calendar

/-- A date that starts its period: the day before is in another one. -/
def StartsPeriod (unit : PeriodUnit) (date : CivilDate) : Prop :=
  ¬ SamePeriod unit (CivilDate.ofDay (date.toDay - 1)) date

/-- A date that ends its period: the day after is in another one. -/
def EndsPeriod (unit : PeriodUnit) (date : CivilDate) : Prop :=
  ¬ SamePeriod unit (CivilDate.ofDay (date.toDay + 1)) date

instance (unit : PeriodUnit) (date : CivilDate) : Decidable (StartsPeriod unit date) :=
  inferInstanceAs (Decidable (¬ _))

instance (unit : PeriodUnit) (date : CivilDate) : Decidable (EndsPeriod unit date) :=
  inferInstanceAs (Decidable (¬ _))

variable {unit : PeriodUnit} {date : CivilDate}

theorem startsPeriod_iff (h : date.IsValid) :
    StartsPeriod unit date ↔ date.toDay = periodStart unit (periodIndex unit date.toDay) := by
  obtain ⟨hstart, hend⟩ := periodIndex_spec unit date.toDay
  rw [StartsPeriod, samePeriod_iff (CivilDate.isValid_ofDay _) h, CivilDate.toDay_ofDay,
    periodIndex_eq_iff]
  omega

theorem endsPeriod_iff (h : date.IsValid) :
    EndsPeriod unit date
      ↔ date.toDay = periodStart unit (periodIndex unit date.toDay + 1) - 1 := by
  obtain ⟨hstart, hend⟩ := periodIndex_spec unit date.toDay
  rw [EndsPeriod, samePeriod_iff (CivilDate.isValid_ofDay _) h, CivilDate.toDay_ofDay,
    periodIndex_eq_iff]
  omega

end Calendar

/-! ## §B The bounds of this period -/

/-- A date of a year from 1 to 9998. -/
structure CivilDate.InnerYear (date : CivilDate) : Prop where
  valid : date.IsValid
  first : 1 ≤ date.year
  last : date.year ≤ 9998

theorem CivilDate.InnerYear.fourDigitDate {date : CivilDate} (h : date.InnerYear) :
    FourDigitDate date := by
  have hfirst := h.first
  have hlast := h.last
  exact ⟨h.valid, by omega, by omega⟩

theorem Calendar.fourDigitDate_ofDay {day : Int} (hfirst : startOfYear 0 ≤ day)
    (hlast : day < startOfYear 10000) : FourDigitDate (CivilDate.ofDay day) := by
  obtain ⟨hstart, hend⟩ := yearOf_spec day
  have hlow : 0 < yearOf day + 1 :=
    startOfYear_lt_iff.mp (lt_of_le_of_lt hfirst hend)
  have hhigh : yearOf day < 10000 :=
    startOfYear_lt_iff.mp (lt_of_le_of_lt hstart hlast)
  exact ⟨CivilDate.isValid_ofDay day, Int.lt_add_one_iff.mp hlow, Int.le_of_lt_add_one hhigh⟩

namespace Context

/-- The local date of the clock. -/
def localDate (ctx : Context) : CivilDate :=
  CivilDate.ofDay (ctx.now.readAt ctx.zone.offset).day

/-- The day, in universal time, on which a bound of this period begins: it does so on its own day, or
the day before where local time is ahead. -/
def boundUtcDay (ctx : Context) (unit : PeriodUnit) (bound : PeriodBound) : Int :=
  boundDay unit .this bound ctx.localDate.toDay - if 0 < ctx.zone.offset then 1 else 0

variable {ctx : Context}

/-- The name of a bound means an instant on that day. -/
theorem exists_boundInstant (h : ctx.localDate.InnerYear) (unit : PeriodUnit)
    (bound : PeriodBound) :
    ∃ midnight, Symbol.instant ctx (writePeriodName .this unit bound) = .ok midnight
      ∧ midnight.utcDay = ctx.boundUtcDay unit bound := by
  have hinside : WellInside (ctx.now.readAt ctx.zone.offset).day := by
    have hfirst : 1 ≤ yearOf (ctx.now.readAt ctx.zone.offset).day := h.first
    have hlast : yearOf (ctx.now.readAt ctx.zone.offset).day ≤ 9998 := h.last
    exact ⟨by omega, by omega⟩
  obtain ⟨midnight, hresolve, hsecond, -⟩ := resolve_writePeriodName (.inr hinside) .this unit bound
  refine ⟨midnight, hresolve, ?_⟩
  rw [utcDay_of_midnight hsecond, boundUtcDay, localDate, CivilDate.toDay_ofDay]
  split <;> omega

/-- The periods of the years from 1 to 9998 do not leave the years from 0 to 9999, also a day
earlier. -/
theorem fourDigitDate_boundUtcDay (h : ctx.localDate.InnerYear) (unit : PeriodUnit)
    (bound : PeriodBound) : FourDigitDate (CivilDate.ofDay (ctx.boundUtcDay unit bound)) := by
  have hstart := h.valid.startOfYear_le
  have hend := h.valid.lt_startOfYear
  have hlow : startOfYear 1 ≤ startOfYear ctx.localDate.year :=
    startOfYear_mono h.first
  have hhigh : startOfYear (ctx.localDate.year + 1) ≤ startOfYear 9999 :=
    startOfYear_mono (Int.add_le_add_right h.last 1)
  -- a period is no longer than the year 0, and the bound lies in the period of the clock's day
  have hfirstYear : startOfYear 0 + 366 = startOfYear 1 := rfl
  have hlastYear : startOfYear 9999 + 365 = startOfYear 10000 := rfl
  have hlength : longestPeriod unit ≤ 366 := by
    cases unit <;> decide
  obtain ⟨hbefore, hafter⟩ := periodIndex_spec unit ctx.localDate.toDay
  have hperiod := (periodStart_succ_bounds unit (periodIndex unit ctx.localDate.toDay)).2
  have hbound : ctx.localDate.toDay - 365 ≤ boundDay unit .this bound ctx.localDate.toDay
      ∧ boundDay unit .this bound ctx.localDate.toDay ≤ ctx.localDate.toDay + 365 := by
    cases bound <;> simp only [boundDay, shiftOffset, Int.add_zero] <;> omega
  have hoffset : (0 : Int) ≤ (if 0 < ctx.zone.offset then 1 else 0)
      ∧ (if 0 < ctx.zone.offset then 1 else 0) ≤ (1 : Int) := by
    split <;> decide
  refine fourDigitDate_ofDay ?_ ?_
  · rw [boundUtcDay]
    omega
  · rw [boundUtcDay]
    omega

/-! ## §C The conditions -/

/-- The field of the object under test is the text of a date. -/
def FieldIsDate (ctx : Context) (field : String) (date : CivilDate) : Prop :=
  Fields.get? field ctx.object = some (.string (String.ofList (writeDate date)))

end Context

section

variable {ctx : Context} {unit : PeriodUnit} {field : String} {date : CivilDate}

theorem symbol_boundCondition (operator : Operator) (bound : PeriodBound) :
    Symbol.ofValue (boundCondition field operator unit bound).value
      = .date (writePeriodName .this unit bound) :=
  ofText_writePeriodName .this unit bound

theorem calendarError?_boundCondition (h : ctx.localDate.InnerYear) (operator : Operator)
    (bound : PeriodBound) :
    (Symbol.ofValue (boundCondition field operator unit bound).value).calendarError? ctx
      = none := by
  obtain ⟨midnight, hinstant, -⟩ := Context.exists_boundInstant h unit bound
  rw [symbol_boundCondition]
  exact Symbol.calendarError?_of_instant hinstant

/-- A condition on a bound compares the text of the date with one that is greater exactly if the date
is not after the bound. -/
theorem exists_verdictIn_boundCondition (hclock : ctx.localDate.InnerYear)
    (hdate : date.InnerYear) (hfield : ctx.FieldIsDate field date) (operator : Operator)
    (unit : PeriodUnit) (bound : PeriodBound) :
    ∃ text, (boundCondition field operator unit bound).verdictIn ctx
        = Verdict.ofOperator operator (.string (String.ofList (writeDate date))) (.string text)
      ∧ Verdict.compare? (.string (String.ofList (writeDate date))) (.string text)
        = some (if date.toDay ≤ ctx.boundUtcDay unit bound then .lt else .gt) := by
  obtain ⟨midnight, hinstant, hday⟩ := Context.exists_boundInstant hclock unit bound
  have hbound := Context.fourDigitDate_boundUtcDay hclock unit bound
  rw [← hday] at hbound ⊢
  refine ⟨String.ofList midnight.isoText, ?_, ?_⟩
  · exact verdictIn_dateCondition hfield (ofText_writePeriodName .this unit bound) hinstant operator
  · rw [Verdict.compare?_texts, Instant.order_writeDate_isoText hdate.fourDigitDate hbound]

/-- `>=` holds of the dates after the day on which the bound begins. -/
theorem verdictIn_ge_bound (hclock : ctx.localDate.InnerYear) (hdate : date.InnerYear)
    (hfield : ctx.FieldIsDate field date) (bound : PeriodBound) :
    (boundCondition field .ge unit bound).verdictIn ctx
      = some (decide (ctx.boundUtcDay unit bound < date.toDay)) := by
  obtain ⟨text, hverdict, hcompare⟩ :=
    exists_verdictIn_boundCondition hclock hdate hfield .ge unit bound
  rw [hverdict, Verdict.ofOperator_ge_of_compare? hcompare]
  split
  · rw [decide_eq_false (by omega)]
    rfl
  · rw [decide_eq_true (by omega)]
    rfl

/-- `<=` holds of the dates up to that day. -/
theorem verdictIn_le_bound (hclock : ctx.localDate.InnerYear) (hdate : date.InnerYear)
    (hfield : ctx.FieldIsDate field date) (bound : PeriodBound) :
    (boundCondition field .le unit bound).verdictIn ctx
      = some (decide (date.toDay ≤ ctx.boundUtcDay unit bound)) := by
  obtain ⟨text, hverdict, hcompare⟩ :=
    exists_verdictIn_boundCondition hclock hdate hfield .le unit bound
  rw [hverdict, Verdict.ofOperator_le_of_compare? hcompare]
  split
  · rw [decide_eq_true (by assumption)]
    rfl
  · rw [decide_eq_false (by assumption)]
    rfl

end

/-! ## §D The filter's verdict -/

namespace Domain

variable {ctx : Context} {unit : PeriodUnit} {field : String} {date : CivilDate}

/-- The filter keeps what is after the day on which the first bound begins, up to the day on which
the last one does. -/
theorem evaluate_periodFilter_between (unit : PeriodUnit) (hclock : ctx.localDate.InnerYear)
    (hdate : date.InnerYear) (hfield : ctx.FieldIsDate field date) :
    ∃ verdict, (ofValue (periodFilter unit field)).evaluate ctx = .ok verdict
      ∧ (verdict = true ↔ ctx.boundUtcDay unit .first < date.toDay
          ∧ date.toDay ≤ ctx.boundUtcDay unit .last) := by
  have hdates : (ofValue (periodFilter unit field)).DatesInCalendar ctx := by
    intro c hc
    have hcases : c = boundCondition field .ge unit .first
        ∨ c = boundCondition field .le unit .last := by
      simpa [ofValue_periodFilter, conditions] using hc
    rcases hcases with rfl | rfl
    · exact calendarError?_boundCondition hclock .ge .first
    · exact calendarError?_boundCondition hclock .le .last
  refine ⟨_, evaluate_of_datesInCalendar hdates, ?_⟩
  rw [ofValue_periodFilter, holdsBy_singleton, Clause.holdsBy_iff]
  simp [verdictIn_ge_bound hclock hdate hfield, verdictIn_le_bound hclock hdate hfield]

/-- Of the dates in this period one is not after the first bound, or not up to the last. -/
theorem between_boundUtcDays_iff (hclock : ctx.localDate.IsValid) (hdate : date.IsValid) :
    (ctx.boundUtcDay unit .first < date.toDay ∧ date.toDay ≤ ctx.boundUtcDay unit .last)
      ↔ SamePeriod unit date ctx.localDate
        ∧ ¬ (if 0 < ctx.zone.offset then EndsPeriod unit date else StartsPeriod unit date) := by
  have hsame : SamePeriod unit date ctx.localDate
      ↔ periodIndex unit date.toDay = periodIndex unit ctx.localDate.toDay :=
    samePeriod_iff hdate hclock
  simp only [Context.boundUtcDay, boundDay, shiftOffset, Int.add_zero]
  by_cases hperiod : SamePeriod unit date ctx.localDate
  · -- the period of the date is that of the clock
    have hindex := hsame.mp hperiod
    obtain ⟨hstart, hend⟩ := periodIndex_spec unit date.toDay
    simp only [← hindex, hperiod, true_and]
    split
    · rw [endsPeriod_iff hdate]
      omega
    · rw [startsPeriod_iff hdate]
      omega
  · -- a day of another period is on one side of this one, a day earlier or not
    have hother : ¬ (periodStart unit (periodIndex unit ctx.localDate.toDay) ≤ date.toDay
        ∧ date.toDay < periodStart unit (periodIndex unit ctx.localDate.toDay + 1)) :=
      fun h => hperiod (hsame.mpr (periodIndex_eq_iff.mpr h))
    simp only [hperiod, false_and, iff_false]
    split <;> omega

/-- **`evaluate_periodFilter`** — the filter keeps the dates of this period, other than the last of
them where local time is ahead of universal time, and other than the first of them elsewhere. -/
theorem evaluate_periodFilter (unit : PeriodUnit) (hclock : ctx.localDate.InnerYear)
    (hdate : date.InnerYear) (hfield : ctx.FieldIsDate field date) :
    ∃ verdict, (ofValue (periodFilter unit field)).evaluate ctx = .ok verdict
      ∧ (verdict = true ↔ SamePeriod unit date ctx.localDate
          ∧ ¬ (if 0 < ctx.zone.offset then EndsPeriod unit date else StartsPeriod unit date)) := by
  obtain ⟨verdict, hverdict, hbetween⟩ := evaluate_periodFilter_between unit hclock hdate hfield
  exact ⟨verdict, hverdict,
    hbetween.trans (between_boundUtcDays_iff hclock.valid hdate.valid)⟩

/-- A thing due on a date, half a second after 10:00 in universal time on the 17th of May 2024. -/
def dueOn (date : CivilDate) (zone : Zone) : Context where
  object := [("due", .string (String.ofList (writeDate date)))]
  now := ⟨739388 * 86400 + 36000, 500000000, by decide, by decide, by decide⟩
  zone

/-- Half past five hours ahead of universal time. -/
def aheadOfUtc : Zone := ⟨19800, by decide, by decide⟩

/-- Five hours behind universal time. -/
def behindUtc : Zone := ⟨-18000, by decide, by decide⟩

/-- In the middle of May what is due in the middle of May is kept. -/
theorem evaluate_periodFilter_midMay :
    (dueOn ⟨2024, 5, 15⟩ aheadOfUtc).localDate.InnerYear
      ∧ CivilDate.InnerYear ⟨2024, 5, 15⟩
      ∧ (dueOn ⟨2024, 5, 15⟩ aheadOfUtc).FieldIsDate "due" ⟨2024, 5, 15⟩
      ∧ (ofValue (periodFilter .month "due")).evaluate (dueOn ⟨2024, 5, 15⟩ aheadOfUtc)
        = .ok true := by
  have hclock : (dueOn ⟨2024, 5, 15⟩ aheadOfUtc).localDate.InnerYear :=
    ⟨by decide, by decide, by decide⟩
  have hdate : CivilDate.InnerYear ⟨2024, 5, 15⟩ := ⟨by decide, by decide, by decide⟩
  have hfield : (dueOn ⟨2024, 5, 15⟩ aheadOfUtc).FieldIsDate "due" ⟨2024, 5, 15⟩ := rfl
  obtain ⟨verdict, hverdict, hiff⟩ := evaluate_periodFilter .month hclock hdate hfield
  have htrue : verdict = true := hiff.mpr (by decide)
  rw [htrue] at hverdict
  exact ⟨hclock, hdate, hfield, hverdict⟩

/-- East of universal time what is due on the 31st of May is dropped, and west of it what is due on
the 1st, although both are in the month of the clock. -/
theorem periodFilter_drops_endsOfMay :
    (dueOn ⟨2024, 5, 31⟩ aheadOfUtc).localDate = ⟨2024, 5, 17⟩
      ∧ (dueOn ⟨2024, 5, 31⟩ aheadOfUtc).FieldIsDate "due" ⟨2024, 5, 31⟩
      ∧ SamePeriod .month ⟨2024, 5, 31⟩ ⟨2024, 5, 17⟩
      ∧ (ofValue (periodFilter .month "due")).evaluate (dueOn ⟨2024, 5, 31⟩ aheadOfUtc) = .ok false
      ∧ (dueOn ⟨2024, 5, 1⟩ behindUtc).localDate = ⟨2024, 5, 17⟩
      ∧ (dueOn ⟨2024, 5, 1⟩ behindUtc).FieldIsDate "due" ⟨2024, 5, 1⟩
      ∧ SamePeriod .month ⟨2024, 5, 1⟩ ⟨2024, 5, 17⟩
      ∧ (ofValue (periodFilter .month "due")).evaluate (dueOn ⟨2024, 5, 1⟩ behindUtc) = .ok false :=
  ⟨by decide, rfl, by decide, by decide +kernel, by decide, rfl, by decide, by decide +kernel⟩

end Domain

end DomainFilter
