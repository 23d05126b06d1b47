/-
# DomainFilter.Calendar.Period — the bounds of days, weeks, months and years

A period is the day, week, month or year that holds a given day, or the one before or after it. Its
bounds are its first and its last day; for a day the two are the same.

Two steps on the way have no answer of their own near the ends of the calendar: reading the local
date of the clock, and going back to the Monday of its week. Where one of them leaves the calendar
the arithmetic fails with a `CalendarError`. Every other step that leaves the calendar gives no day.
-/
import DomainFilter.Calendar.Instant

namespace DomainFilter

/-- A step of date arithmetic that left the calendar. -/
inductive CalendarError where
  /-- The clock reads a local date outside the calendar. -/
  | localDate
  /-- The week of the clock starts before the calendar. -/
  | weekStart
  deriving DecidableEq

/-- A unit of the calendar. -/
inductive PeriodUnit where
  | day
  | week
  | month
  | year
  deriving DecidableEq

/-- Which period is meant, beside the one that holds the clock's day. -/
inductive PeriodShift where
  | previous
  | this
  | next
  deriving DecidableEq

/-- Which bound of a period is meant. -/
inductive PeriodBound where
  | first
  | last
  deriving DecidableEq

namespace Calendar

/-- How many periods further a shift goes. -/
def shiftOffset : PeriodShift → Int
  | .previous => -1
  | .this => 0
  | .next => 1

/-- The first day of a month, the months counted from January of year 0. -/
def monthStart? (months : Int) : Option Int :=
  CivilDate.toDay? ⟨months / 12, (months % 12).toNat + 1, 1⟩

/-- A bound of a month, the months counted from January of year 0. The last day is the one before
the next month starts, and neither start may leave the calendar. -/
def monthBound? (months : Int) : PeriodBound → Option Int
  | .first => monthStart? months
  | .last => do
    let _ ← monthStart? months
    let next ← monthStart? (months + 1)
    checked? (next - 1)

/-- A bound of a year. -/
def yearBound? (year : Int) : PeriodBound → Option Int
  | .first => CivilDate.toDay? ⟨year, 1, 1⟩
  | .last => CivilDate.toDay? ⟨year, 12, 31⟩

/-- A bound of the week that is so many weeks after the one with the given Monday. -/
def weekBound? (monday weeks : Int) (bound : PeriodBound) : Option Int := do
  let start ← checked? (monday + 7 * weeks)
  match bound with
  | .first => some start
  | .last => checked? (start + 6)

/-- A bound of a period, counted from the day `today`; no day if it is outside the calendar. -/
def periodBound (unit : PeriodUnit) (shift : PeriodShift) (bound : PeriodBound) (today : Int) :
    Except CalendarError (Option Int) :=
  let offset := shiftOffset shift
  match unit with
  | .day => .ok (checked? (today + offset))
  | .week =>
    match checked? (today - weekday today) with
    | none => .error .weekStart
    | some monday => .ok (weekBound? monday offset bound)
  | .month =>
    let date := CivilDate.ofDay today
    .ok (monthBound? (date.year * 12 + (date.month - 1 : Nat) + offset) bound)
  | .year => .ok (yearBound? ((CivilDate.ofDay today).year + offset) bound)

end Calendar

end DomainFilter
