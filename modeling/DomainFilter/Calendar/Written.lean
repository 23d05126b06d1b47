/-
# DomainFilter.Calendar.Written — instants as text

Two texts of an instant. `Instant.isoText` is in universal time, cut to milliseconds, and ends in
`Z`. `Instant.zonedText` is at an offset, with as many groups of three fraction digits as it needs.
Years from 0 to 9999 have four digits; others have a sign and at least four. A leap second is
written as second 60 of its minute.
-/
import DomainFilter.Calendar.Instant
import DomainFilter.Number.Digits

namespace DomainFilter

namespace Calendar

/-- The digits of a year. -/
def writeYear (year : Int) : List Char :=
  if 0 ≤ year ∧ year ≤ 9999 then Digits.writePadded 4 year.toNat
  else (if year < 0 then '-' else '+') :: Digits.writePadded 4 year.natAbs

/-- The text of a civil date. -/
def writeDate (date : CivilDate) : List Char :=
  writeYear date.year ++ '-' :: Digits.writePadded 2 date.month
    ++ '-' :: Digits.writePadded 2 date.day

/-- The text of an offset, to the nearest minute. -/
def writeOffset (offset : Int) : List Char :=
  let minutes := (offset.natAbs + 30) / 60
  (if offset < 0 then '-' else '+') :: Digits.writePadded 2 (minutes / 60)
    ++ ':' :: Digits.writePadded 2 (minutes % 60)

/-- The fewest groups of three digits that hold so many nanoseconds. -/
def writeFraction (nano : Nat) : List Char :=
  if nano = 0 then []
  else if nano % 1000000 = 0 then '.' :: Digits.writePadded 3 (nano / 1000000)
  else if nano % 1000 = 0 then '.' :: Digits.writePadded 6 (nano / 1000)
  else '.' :: Digits.writePadded 9 nano

/-- Milliseconds, cut. -/
def writeMillis (nano : Nat) : List Char := '.' :: Digits.writePadded 3 (nano / 1000000)

end Calendar

namespace LocalTime

open Calendar

/-- The nanoseconds within the second that is written. -/
def fractionNano (time : LocalTime) : Nat := time.nano % nanosPerSecond

/-- The second of the minute that is written: one more in a leap second. -/
def secondOfMinute (time : LocalTime) : Nat := time.second % 60 + time.nano / nanosPerSecond

/-- The text of a local reading, with its fraction written one way or another. -/
def write (fraction : Nat → List Char) (time : LocalTime) : List Char :=
  writeDate (CivilDate.ofDay time.day)
    ++ 'T' :: Digits.writePadded 2 (time.second / 3600)
    ++ ':' :: Digits.writePadded 2 (time.second / 60 % 60)
    ++ ':' :: Digits.writePadded 2 time.secondOfMinute ++ fraction time.fractionNano

end LocalTime

namespace Instant

/-- The text of an instant in universal time, cut to milliseconds. -/
def isoText (instant : Instant) : List Char :=
  (instant.readAt 0).write Calendar.writeMillis ++ ['Z']

/-- The text of an instant as it reads at an offset. -/
def zonedText (offset : Int) (instant : Instant) : List Char :=
  (instant.readAt offset).write Calendar.writeFraction ++ Calendar.writeOffset offset

end Instant

end DomainFilter
