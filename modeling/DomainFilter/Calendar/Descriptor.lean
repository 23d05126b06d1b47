/-
# DomainFilter.Calendar.Descriptor — the instant that a date descriptor means

A descriptor is a text. It may spell a date or time out (§A), with white space at its ends allowed,
or name a bound of a period in the form `date.<shift>.<unit>[.<bound>]`, in any letter case and
without white space (§B); then it means the local midnight that starts that day. Any other text, and
any bound outside the calendar, means the clock's own instant.

A shift other than `prev` and `next` is `this`, and a bound other than `last` is `first`. A unit
that is none of day, week, month and year means the clock's instant too, after the local date is
read.

BOUNDARY: the local midnight of a named day and a local time that is spelled out are taken at the
offset of the clock. Where clocks are put forward or back in between, local time has another offset.
-/
import DomainFilter.Calendar.Reading
import DomainFilter.Calendar.Period
import DomainFilter.Text.Lowercase
import DomainFilter.Text.Segments

namespace DomainFilter

/-- A bound of a period that a text names; no unit if the text names none that is known. -/
structure PeriodName where
  shift : PeriodShift
  unit : Option PeriodUnit
  bound : PeriodBound
  deriving DecidableEq

namespace Calendar

/-! ## §A Spelled out -/

/-- Whether a text is so many decimal digits. -/
def isDigits (width : Nat) (s : List Char) : Bool := s.length == width && s.all Char.isDigit

/-- A year, or a year and a month, brought to a full date on its first day. -/
def completeDate (s : List Char) : List Char :=
  match Text.segments '-' s with
  | [year] => if isDigits 4 year then year ++ "-01-01".toList else s
  | [year, month] =>
    if isDigits 4 year ∧ isDigits 2 month then year ++ '-' :: month ++ "-01".toList else s
  | _ => s

/-- The instant that a text spells out: with an offset; a date, at midnight of universal time; or a
local time. -/
def spelledOut? (zone : Zone) (s : List Char) : Option Instant :=
  let s := Text.trim s
  match rfc3339? s with
  | some instant => some instant
  | none =>
    match date? (completeDate s) with
    | some day => (LocalTime.midnight day).toInstant? 0
    | none =>
      match localTime? (literal 'T') s with
      | some time => time.toInstant? zone.offset
      | none =>
        match localTime? (fun s => some (Text.trimStart s)) s with
        | some time => time.toInstant? zone.offset
        | none => none

/-! ## §B Named periods -/

/-- The shift that a segment names. -/
def shiftOf (s : List Char) : PeriodShift :=
  if s = "prev".toList then .previous else if s = "next".toList then .next else .this

/-- The unit that a segment names. -/
def unitOf? (s : List Char) : Option PeriodUnit :=
  if s = "day".toList then some .day
  else if s = "week".toList then some .week
  else if s = "month".toList then some .month
  else if s = "year".toList then some .year
  else none

/-- The bound that the segments after the unit name. -/
def boundOf : List (List Char) → PeriodBound
  | s :: _ => if s = "last".toList then .last else .first
  | [] => .first

/-- The bound of a period that a text in lower case names. -/
def periodName? (s : List Char) : Option PeriodName :=
  match Text.segments '.' s with
  | word :: shift :: unit :: rest =>
    if word = "date".toList then some ⟨shiftOf shift, unitOf? unit, boundOf rest⟩ else none
  | _ => none

/-- The local midnight that starts the day named, if there is one in the calendar. -/
def namedMidnight (zone : Zone) (name : PeriodName) (now : Instant) :
    Except CalendarError (Option Instant) :=
  match checked? (now.readAt zone.offset).day with
  | none => .error .localDate
  | some today =>
    match name.unit with
    | none => .ok none
    | some unit => do
      let day ← periodBound unit name.shift name.bound today
      return day.bind fun day => (LocalTime.midnight day).toInstant? zone.offset

/-! ## §C Descriptors -/

/-- The instant that a descriptor means, in a zone and at a reading of the clock. -/
def resolve (zone : Zone) (descriptor : List Char) (now : Instant) :
    Except CalendarError Instant :=
  if descriptor = [] then .ok now
  else
    match spelledOut? zone descriptor with
    | some instant => .ok instant
    | none =>
      match periodName? (Text.lower descriptor) with
      | none => .ok now
      | some name => do
        let midnight ← namedMidnight zone name now
        return midnight.getD now

end Calendar

end DomainFilter
