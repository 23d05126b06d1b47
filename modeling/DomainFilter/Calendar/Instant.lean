/-
# DomainFilter.Calendar.Instant — points in time and their local readings

An instant is a point in time of the calendar: a second counted from the start of year 0 in
universal time, and nanoseconds. A leap second has no count of its own; it is the second before it
with a thousand million nanoseconds more. A zone is a fixed offset, and a local reading of an
instant is a day, a second of that day and the nanoseconds.

BOUNDARY: a place whose offset changes in the course of time, so that local times are skipped or
repeated, has no `Zone`. The one offset is that of the clock, of every local midnight and of every
local time that a text spells out.
-/
import DomainFilter.Calendar.Civil

namespace DomainFilter

/-- The seconds of a day. -/
def secondsPerDay : Nat := 86400

/-- The nanoseconds of a second. -/
def nanosPerSecond : Nat := 1000000000

/-- A point in time of the calendar. -/
structure Instant where
  /-- Seconds since the start of year 0, in universal time. -/
  second : Int
  /-- Nanoseconds; a thousand million and more in a leap second. -/
  nano : Nat
  first_le : Calendar.firstDay * secondsPerDay ≤ second
  lt_end : second < (Calendar.lastDay + 1) * secondsPerDay
  nano_lt : nano < 2 * nanosPerSecond
  deriving DecidableEq

/-- A fixed offset of local time from universal time, in seconds east. -/
structure Zone where
  offset : Int
  lower : -(secondsPerDay : Int) < offset
  upper : offset < secondsPerDay
  deriving DecidableEq

/-- A day and a time of that day, read in some zone. -/
structure LocalTime where
  day : Int
  /-- The second of the day. -/
  second : Nat
  nano : Nat
  deriving DecidableEq

namespace Instant

/-- The instant of a second and nanoseconds, if it is in the calendar. -/
def ofSeconds? (second : Int) (nano : Nat) : Option Instant :=
  if h : Calendar.firstDay * secondsPerDay ≤ second ∧
      second < (Calendar.lastDay + 1) * secondsPerDay ∧ nano < 2 * nanosPerSecond then
    some ⟨second, nano, h.1, h.2.1, h.2.2⟩
  else none

/-- The local reading of an instant at an offset in seconds east. Near the ends of the calendar it
may lie outside. -/
def readAt (instant : Instant) (offset : Int) : LocalTime :=
  let second := instant.second + offset
  ⟨second / secondsPerDay, (second % secondsPerDay).toNat, instant.nano⟩

end Instant

namespace LocalTime

/-- The start of a day. -/
def midnight (day : Int) : LocalTime := ⟨day, 0, 0⟩

/-- The instant that a reading at an offset means, if it is in the calendar. -/
def toInstant? (time : LocalTime) (offset : Int) : Option Instant :=
  Instant.ofSeconds? (time.day * secondsPerDay + time.second - offset) time.nano

end LocalTime

end DomainFilter
