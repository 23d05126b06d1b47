/-
# DomainFilter.Proofs.Calendar.Ends — descriptors at the ends of the calendar

Dates near an end of the calendar are checked as they are computed, and one that is outside leaves
the descriptor at the clock. Two dates are not: the local date of the clock, which can be outside
where its universal date is not, and the Monday of its week.

* §A The Monday of a week: the calendar starts on a Thursday, and its first Monday is four days
  later.
* §B When the name of a bound has an answer, and what it is.
* §C **`resolve_returns_iff`** — the descriptors and clocks that have an answer are those that do not
  need one of the two dates outside; the answer is the instant spelled out, the local midnight of
  the bound, or the clock.
-/
import DomainFilter.Proofs.Calendar.Named

namespace DomainFilter.Calendar

/-! ## §A The first week -/

/-- The first Monday of the calendar. -/
def firstMonday : Int := firstDay + 4

/-- The Monday of a week is in the calendar from the first one on. -/
theorem inCalendar_monday_iff {today : Int} (h : inCalendar today = true) :
    inCalendar (today - weekday today) = true ↔ firstMonday ≤ today := by
  rw [inCalendar_iff] at h ⊢
  simp only [firstMonday, firstDay_eq, lastDay_eq, weekday] at *
  omega

theorem periodBound_week_of_before {today : Int} (h : inCalendar today = true)
    (hbefore : today < firstMonday) (shift : PeriodShift) (bound : PeriodBound) :
    periodBound .week shift bound today = .error .weekStart := by
  have hmonday : checked? (today - weekday today) = none := by
    apply if_neg
    rw [inCalendar_monday_iff h]
    exact not_le.mpr hbefore
  rw [periodBound, hmonday]

/-! ## §B Names -/

/-- The two dates that are not checked are in the calendar for a name and a local date: the local
date itself, and its Monday if the name is one of a week. -/
def NeedsInside (name : PeriodName) (today : Int) : Prop :=
  inCalendar today = true ∧ (name.unit = some .week → firstMonday ≤ today)

instance (name : PeriodName) (today : Int) : Decidable (NeedsInside name today) := by
  unfold NeedsInside
  infer_instance

/-- A name means the midnight that starts this day, counted from the day `today`: its unit is known,
and the days on the way to it and the midnight itself are in the calendar. -/
def Reaches (zone : Zone) (name : PeriodName) (today day : Int) : Prop :=
  ∃ unit, name.unit = some unit ∧ boundDay unit name.shift name.bound today = day
    ∧ (∀ step ∈ daysOnTheWay unit name.shift name.bound today, inCalendar step = true)
    ∧ MidnightInCalendar zone day

/-- The midnight that a name means, if it reaches one. -/
def reachedMidnight? (zone : Zone) (name : PeriodName) (today : Int) : Option Instant := do
  let unit ← name.unit
  let day ← reached? (daysOnTheWay unit name.shift name.bound today)
    (boundDay unit name.shift name.bound today)
  (LocalTime.midnight day).toInstant? zone.offset

theorem toInstant?_midnight_of_not {zone : Zone} {day : Int} (h : ¬ MidnightInCalendar zone day) :
    (LocalTime.midnight day).toInstant? zone.offset = none := by
  apply dif_neg
  rintro ⟨hfirst, hlast, -⟩
  have hstart : (LocalTime.midnight day).day * secondsPerDay + (LocalTime.midnight day).second
      = day * secondsPerDay := Int.add_zero _
  rw [hstart] at hfirst hlast
  exact h ⟨hfirst, hlast⟩

section

variable {zone : Zone} {name : PeriodName} {today : Int}

theorem exists_reachedMidnight? {day : Int} (h : Reaches zone name today day) :
    ∃ midnight, reachedMidnight? zone name today = some midnight
      ∧ midnight.readAt zone.offset = .midnight day := by
  obtain ⟨unit, hunit, hday, hway, hinside⟩ := h
  obtain ⟨midnight, hmidnight, hsecond, hnano⟩ := exists_localMidnight hinside
  refine ⟨midnight, ?_, readAt_of_midnight hsecond hnano⟩
  simp only [reachedMidnight?, hunit, hday, reached?, if_pos hway, Option.bind_eq_bind,
    Option.bind_some, hmidnight]

theorem reachedMidnight?_eq_none (h : ∀ day, ¬ Reaches zone name today day) :
    reachedMidnight? zone name today = none := by
  unfold reachedMidnight?
  cases hunit : name.unit with
  | none => rfl
  | some unit =>
    by_cases hway : ∀ step ∈ daysOnTheWay unit name.shift name.bound today, inCalendar step = true
    · have hmidnight : ¬ MidnightInCalendar zone (boundDay unit name.shift name.bound today) :=
        fun hinside => h _ ⟨unit, hunit, rfl, hway, hinside⟩
      simp only [reached?, if_pos hway, Option.bind_eq_bind, Option.bind_some,
        toInstant?_midnight_of_not hmidnight]
    · simp only [reached?, if_neg hway, Option.bind_eq_bind, Option.bind_some, Option.bind_none]

end

section

variable {zone : Zone} {name : PeriodName} {now : Instant}

/-- **`namedMidnight_of_needsInside`** — where the two dates are inside the calendar, a name means
the midnight that it reaches. -/
theorem namedMidnight_of_needsInside (h : NeedsInside name (now.readAt zone.offset).day) :
    namedMidnight zone name now
      = .ok (reachedMidnight? zone name (now.readAt zone.offset).day) := by
  obtain ⟨htoday, hweek⟩ := h
  have hchecked : checked? (now.readAt zone.offset).day = some (now.readAt zone.offset).day :=
    if_pos htoday
  rw [namedMidnight, hchecked, reachedMidnight?]
  cases hunit : name.unit with
  | none => rfl
  | some unit =>
    dsimp only
    rw [periodBound_eq_reached?]
    · rfl
    · rintro rfl
      exact (inCalendar_monday_iff htoday).mpr (hweek hunit)

/-- Where one of them is not, the name has no answer. -/
theorem namedMidnight_of_not_needsInside (h : ¬ NeedsInside name (now.readAt zone.offset).day) :
    ∃ error, namedMidnight zone name now = .error error := by
  by_cases htoday : inCalendar (now.readAt zone.offset).day = true
  · have hchecked : checked? (now.readAt zone.offset).day = some (now.readAt zone.offset).day :=
      if_pos htoday
    have hweek : name.unit = some .week ∧ (now.readAt zone.offset).day < firstMonday := by
      simpa only [NeedsInside, htoday, true_and, Classical.not_imp, not_le] using h
    refine ⟨.weekStart, ?_⟩
    rw [namedMidnight, hchecked, hweek.1]
    dsimp only
    rw [periodBound_week_of_before htoday hweek.2]
    rfl
  · have hchecked : checked? (now.readAt zone.offset).day = none := if_neg htoday
    exact ⟨.localDate, by rw [namedMidnight, hchecked]⟩

end

/-! ## §C Descriptors -/

/-- The bound of a period that a descriptor names, if it does not spell an instant out. -/
def nameIn? (zone : Zone) (descriptor : List Char) : Option PeriodName :=
  match spelledOut? zone descriptor with
  | some _ => none
  | none => periodName? (Text.lower descriptor)

/-- The descriptor names no bound of a period, or the two dates that are not checked are inside the
calendar for it. -/
def StaysInCalendar (zone : Zone) (descriptor : List Char) (now : Instant) : Prop :=
  ∀ name ∈ nameIn? zone descriptor, NeedsInside name (now.readAt zone.offset).day

instance (zone : Zone) (descriptor : List Char) (now : Instant) :
    Decidable (StaysInCalendar zone descriptor now) := by
  unfold StaysInCalendar
  infer_instance

/-- What a descriptor means: with a name, the local midnight that it reaches, and the clock if it
reaches none; else the instant spelled out, and the clock if none is. -/
def Means (zone : Zone) (descriptor : List Char) (now instant : Instant) : Prop :=
  match nameIn? zone descriptor with
  | some name =>
    (∃ day, Reaches zone name (now.readAt zone.offset).day day
        ∧ instant.readAt zone.offset = .midnight day)
      ∨ (∀ day, ¬ Reaches zone name (now.readAt zone.offset).day day) ∧ instant = now
  | none => instant = (spelledOut? zone descriptor).getD now

/-- The empty descriptor is no case of its own: it spells nothing out and names nothing. -/
theorem resolve_eq (zone : Zone) (descriptor : List Char) (now : Instant) :
    resolve zone descriptor now
      = match nameIn? zone descriptor with
        | some name => (namedMidnight zone name now).map (·.getD now)
        | none => .ok ((spelledOut? zone descriptor).getD now) := by
  unfold resolve nameIn?
  by_cases hempty : descriptor = []
  · subst hempty
    rfl
  · rw [if_neg hempty]
    cases spelledOut? zone descriptor with
    | some instant => rfl
    | none =>
      dsimp only
      cases periodName? (Text.lower descriptor) with
      | none => rfl
      | some name => cases hnamed : namedMidnight zone name now <;> rfl

theorem means_reachedMidnight {zone : Zone} {descriptor : List Char} {now : Instant}
    {name : PeriodName} (hname : nameIn? zone descriptor = some name) :
    Means zone descriptor now
      ((reachedMidnight? zone name (now.readAt zone.offset).day).getD now) := by
  unfold Means
  rw [hname]
  by_cases hreaches : ∃ day, Reaches zone name (now.readAt zone.offset).day day
  · obtain ⟨day, hday⟩ := hreaches
    obtain ⟨midnight, hmidnight, hreading⟩ := exists_reachedMidnight? hday
    refine .inl ⟨day, hday, ?_⟩
    rw [hmidnight]
    exact hreading
  · have hnone : ∀ day, ¬ Reaches zone name (now.readAt zone.offset).day day :=
      not_exists.mp hreaches
    refine .inr ⟨hnone, ?_⟩
    rw [reachedMidnight?_eq_none hnone]
    rfl

/-- **`resolve_returns_iff`** — a descriptor has an answer exactly if the two dates that are not
checked are inside the calendar, as far as it needs them, and the answer is what it means. -/
theorem resolve_returns_iff (zone : Zone) (descriptor : List Char) (now : Instant) :
    ((∃ instant, resolve zone descriptor now = .ok instant) ↔ StaysInCalendar zone descriptor now)
      ∧ ∀ instant, resolve zone descriptor now = .ok instant →
        Means zone descriptor now instant := by
  rw [resolve_eq]
  cases hname : nameIn? zone descriptor with
  | none =>
    constructor
    · simp [StaysInCalendar, hname]
    · rintro instant ⟨⟩
      unfold Means
      rw [hname]
  | some name =>
    dsimp only
    have hstays : StaysInCalendar zone descriptor now
        ↔ NeedsInside name (now.readAt zone.offset).day := by
      simp [StaysInCalendar, hname]
    rw [hstays]
    by_cases hneeds : NeedsInside name (now.readAt zone.offset).day
    · rw [namedMidnight_of_needsInside hneeds]
      refine ⟨⟨fun _ => hneeds, fun _ => ⟨_, rfl⟩⟩, ?_⟩
      rintro instant ⟨⟩
      exact means_reachedMidnight hname
    · obtain ⟨error, herror⟩ := namedMidnight_of_not_needsInside hneeds
      rw [herror]
      refine ⟨⟨?_, fun h => absurd h hneeds⟩, ?_⟩
      · rintro ⟨instant, ⟨⟩⟩
      · rintro instant ⟨⟩

/-- Noon of the first day of the calendar, in universal time. -/
def firstNoon : Instant := ⟨firstDay * 86400 + 43200, 0, by decide, by decide, noNanos_lt⟩

/-- The evening of the last day of the calendar, in universal time. -/
def lastEvening : Instant := ⟨lastDay * 86400 + 72000, 0, by decide, by decide, noNanos_lt⟩

/-- Five and a half hours ahead of universal time. -/
def aheadOfUniversal : Zone := ⟨330 * 60, by decide, by decide⟩

/-- On the first day of the calendar the month before has an answer, although it is outside. -/
theorem resolve_returns_on_firstDay :
    ∃ instant, resolve aheadOfUniversal "date.prev.month".toList firstNoon = .ok instant
      ∧ Means aheadOfUniversal "date.prev.month".toList firstNoon instant := by
  have hreturns := resolve_returns_iff aheadOfUniversal "date.prev.month".toList firstNoon
  obtain ⟨instant, hresolve⟩ := hreturns.1.mpr (by decide +kernel)
  exact ⟨instant, hresolve, hreturns.2 instant hresolve⟩

/-- On that day its own week has none, since the Monday is outside; in the last evening not even that
day has one, since where local time is ahead the next has begun. -/
theorem resolve_leaves_calendar :
    resolve aheadOfUniversal "date.this.week".toList firstNoon = .error .weekStart
      ∧ resolve aheadOfUniversal "date.this.day".toList lastEvening = .error .localDate := by
  decide +kernel

end DomainFilter.Calendar
