/-
# DomainFilter.Proofs.Calendar.Tiling — named periods cover the calendar without gap or overlap

The names `date.prev.week.first` to `date.next.week.last`, and those of days, months and years, mean
six local midnights. The days that they start are the ends of three periods in a row, the middle one
of which holds the local date of the clock.

* §A What the first and last days of three periods in a row have to be, for each unit.
* §B They are that for the numbered periods around a day.
* §C **`resolve_tiles`** — and the names mean the midnights that start them, for every clock two
  years or more inside the calendar.

BOUNDARY: nearer to an end of the calendar a name whose day or midnight is outside means the clock.
-/
import DomainFilter.Proofs.Calendar.Named

namespace DomainFilter.Calendar

/-! ## §A Periods in a row -/

/-- From the first to the last of these days is a period of the unit: one day, Monday to Sunday, or
all days of a month or year. -/
def Spans : PeriodUnit → Int → Int → Prop
  | .day, first, last => last = first
  | .week, first, last => weekday first = 0 ∧ weekday last = 6 ∧ last = first + 6
  | .month, first, last =>
    ∃ year month, CivilDate.ofDay first = ⟨year, month, 1⟩
      ∧ CivilDate.ofDay last = ⟨year, month, monthLength year month⟩
  | .year, first, last =>
    ∃ year, CivilDate.ofDay first = ⟨year, 1, 1⟩ ∧ CivilDate.ofDay last = ⟨year, 12, 31⟩

/-- First and last days of three periods of the unit, each of which starts on the day after the one
before it ends, and the middle one of which holds the day `today`. -/
structure Tiles (unit : PeriodUnit) (bounds : PeriodShift → PeriodBound → Int) (today : Int) :
    Prop where
  spans : ∀ shift, Spans unit (bounds shift .first) (bounds shift .last)
  first_le : bounds .this .first ≤ today
  le_last : today ≤ bounds .this .last
  this_next_previous : bounds .previous .last + 1 = bounds .this .first
  next_next_this : bounds .this .last + 1 = bounds .next .first

/-! ## §B The numbered periods -/

/-- A month goes from its first date to the one that has its length for a day. -/
theorem spans_month (months : Int) :
    Spans .month (startOfMonth months) (startOfMonth (months + 1) - 1) := by
  obtain ⟨hfirst, hlast⟩ := isValid_monthBound months
  refine ⟨months / 12, (months % 12).toNat + 1, CivilDate.ofDay_toDay hfirst, ?_⟩
  have hday : startOfMonth (months + 1) - 1
      = CivilDate.toDay ⟨months / 12, (months % 12).toNat + 1,
        monthLength (months / 12) ((months % 12).toNat + 1)⟩ := by
    rw [startOfMonth_succ, startOfMonth_eq, CivilDate.toDay_eq]
  rw [hday, CivilDate.ofDay_toDay hlast]

/-- A year goes from its January 1st to its December 31st. -/
theorem spans_year (year : Int) : Spans .year (startOfYear year) (startOfYear (year + 1) - 1) := by
  obtain ⟨hjanuary, hdecember⟩ := isValid_yearBound year
  obtain ⟨hfirst, hlast⟩ := yearBound_toDay year
  refine ⟨year, ?_, ?_⟩
  · rw [← hfirst, CivilDate.ofDay_toDay hjanuary]
  · rw [← hlast, CivilDate.ofDay_toDay hdecember]

/-- **`spans_period`** — a numbered period is a period of its unit. -/
theorem spans_period (unit : PeriodUnit) (index : Int) :
    Spans unit (periodStart unit index) (periodStart unit (index + 1) - 1) := by
  cases unit with
  | day => exact Int.add_sub_cancel index 1
  | week =>
    simp only [Spans, periodStart, weekday]
    omega
  | month => exact spans_month index
  | year => exact spans_year index

/-- **`tiles_boundDay`** — the bounds of the periods around a day tile the calendar. -/
theorem tiles_boundDay (unit : PeriodUnit) (today : Int) :
    Tiles unit (fun shift bound => boundDay unit shift bound today) today := by
  obtain ⟨hstart, hend⟩ := periodIndex_spec unit today
  have hprevious : periodIndex unit today + -1 + 1 = periodIndex unit today := by omega
  refine ⟨?_, ?_, ?_, ?_, ?_⟩
  · intro shift
    exact spans_period unit (periodIndex unit today + shiftOffset shift)
  · simpa [boundDay, shiftOffset] using hstart
  · simp only [boundDay, shiftOffset, Int.add_zero]
    omega
  · simp [boundDay, shiftOffset, hprevious]
  · simp [boundDay, shiftOffset]

/-! ## §C The names -/

/-- **`resolve_tiles`** — two years or more inside the calendar the names of the periods of a unit
mean local midnights, and the days that these start tile the calendar around the local date. -/
theorem resolve_tiles {zone : Zone} {now : Instant} (h : TwoYearsInside zone now)
    (unit : PeriodUnit) :
    ∃ bounds : PeriodShift → PeriodBound → Int,
      (∀ shift bound, ∃ midnight,
        resolve zone (writePeriodName shift unit bound).toList now = .ok midnight
          ∧ midnight.readAt zone.offset = .midnight (bounds shift bound))
        ∧ Tiles unit bounds (now.readAt zone.offset).day := by
  refine ⟨fun shift bound => boundDay unit shift bound (now.readAt zone.offset).day, ?_,
    tiles_boundDay unit _⟩
  intro shift bound
  obtain ⟨midnight, hresolve, hsecond, hnano⟩ := resolve_writePeriodName h shift unit bound
  exact ⟨midnight, hresolve, readAt_of_midnight hsecond hnano⟩

/-- In the morning of the 1st of January -262141, in universal time; five hours behind it is the last
evening of the year before. -/
def earlyClock : Instant :=
  ⟨startOfYear (-262141) * 86400 + 3600, 0, by decide, by decide, noNanos_lt⟩

/-- Five hours behind universal time. -/
def fiveHoursBehind : Zone := ⟨-(5 * 3600), by decide, by decide⟩

/-- The earliest clocks have their periods too, where the year before starts the calendar. -/
theorem resolve_tiles_earlyClock :
    TwoYearsInside fiveHoursBehind earlyClock
      ∧ ∃ bounds : PeriodShift → PeriodBound → Int,
        (∀ shift bound, ∃ midnight,
          resolve fiveHoursBehind (writePeriodName shift .year bound).toList earlyClock
              = .ok midnight
            ∧ midnight.readAt fiveHoursBehind.offset = .midnight (bounds shift bound))
          ∧ Tiles .year bounds (earlyClock.readAt fiveHoursBehind.offset).day := by
  have hinside : TwoYearsInside fiveHoursBehind earlyClock := .inl ⟨by decide, by decide⟩
  exact ⟨hinside, resolve_tiles hinside .year⟩

end DomainFilter.Calendar
