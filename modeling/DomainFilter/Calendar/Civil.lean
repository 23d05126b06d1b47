/-
# DomainFilter.Calendar.Civil — days and civil dates

A day is an integer, counted from January 1st of year 0 of the Gregorian calendar extended to all
years. `CivilDate.ofDay` and `CivilDate.toDay` go between a day and its year, month and day of the
month; a week starts on a Monday. The calendar that dates are taken from has an end on both sides:
January 1st of year -262143 and December 31st of year 262142.
-/

namespace DomainFilter

/-- A year, a month from 1 and a day of the month from 1. -/
structure CivilDate where
  year : Int
  month : Nat
  day : Nat
  deriving DecidableEq

namespace Calendar

/-! ## §A Years and months -/

/-- Every fourth year is a leap year, except every hundredth, except every four hundredth. -/
def isLeap (year : Int) : Bool := year % 4 == 0 && (year % 100 != 0 || year % 400 == 0)

/-- The day on which a year starts: 365 days for each year before it, and one more for each leap
year among them. -/
def startOfYear (year : Int) : Int :=
  365 * year + (year + 3) / 4 - (year + 99) / 100 + (year + 399) / 400

/-- The lengths of the months of a year. -/
def monthLengths (year : Int) : List Nat :=
  [31, if isLeap year then 29 else 28, 31, 30, 31, 30, 31, 31, 30, 31, 30, 31]

/-- The year of a day: four hundred years have 146097 days, and an estimate at that rate is off by
at most one. -/
def yearOf (day : Int) : Int :=
  let estimate := day * 400 / 146097
  if day < startOfYear estimate then estimate - 1
  else if startOfYear (estimate + 1) ≤ day then estimate + 1
  else estimate

/-- How many of the lengths are used up by so many days, and the days left over. -/
def passLengths : List Nat → Nat → Nat × Nat
  | [], days => (0, days)
  | length :: lengths, days =>
    if days < length then (0, days)
    else
      let (passed, left) := passLengths lengths (days - length)
      (passed + 1, left)

/-- The day of the week, Monday being 0. -/
def weekday (day : Int) : Int := (day + 5) % 7

/-! ## §B The ends of the calendar -/

/-- The first day of the calendar. -/
def firstDay : Int := startOfYear (-262143)

/-- The last day of the calendar. -/
def lastDay : Int := startOfYear 262143 - 1

/-- Whether a day is in the calendar. -/
def inCalendar (day : Int) : Bool := firstDay ≤ day && day ≤ lastDay

/-- A day, if it is in the calendar. -/
def checked? (day : Int) : Option Int := if inCalendar day then some day else none

end Calendar

namespace CivilDate

open Calendar

/-! ## §C Civil dates -/

/-- The civil date of a day. -/
def ofDay (day : Int) : CivilDate :=
  let year := yearOf day
  let (months, days) := passLengths (monthLengths year) (day - startOfYear year).toNat
  ⟨year, months + 1, days + 1⟩

/-- The days of a year before its month of the given number. -/
def daysBefore (year : Int) (month : Nat) : Nat :=
  ((monthLengths year).take (month - 1)).foldr (· + ·) 0

/-- The day of a civil date. -/
def toDay (date : CivilDate) : Int :=
  startOfYear date.year + daysBefore date.year date.month + date.day - 1

/-- A month of the year and a day of that month. -/
def IsValid (date : CivilDate) : Prop :=
  1 ≤ date.month ∧ date.month ≤ 12 ∧ 1 ≤ date.day ∧
    date.day ≤ (monthLengths date.year).getD (date.month - 1) 0

instance (date : CivilDate) : Decidable date.IsValid := by
  unfold IsValid
  infer_instance

/-- The day of a civil date, if there is such a date in the calendar. -/
def toDay? (date : CivilDate) : Option Int :=
  if date.IsValid then checked? date.toDay else none

end CivilDate

end DomainFilter
