/-
# DomainFilter.Proofs.Calendar.Named — the bounds of periods by their names

* §A A text that starts with neither a digit, a sign nor white space spells out no date.
* §B The names: `date.this.week.first` and the like, and that they are read back.
* §C **`resolve_writePeriodName`** — two years or more inside the calendar a name means the local
  midnight that starts the day of the bound.
* §D **`utcDay_of_midnight`** — the day of that midnight in universal time: the day of the bound, or
  the day before it where local time is ahead.
-/
import DomainFilter.Reference.Symbol
import DomainFilter.Proofs.Calendar.Period
import DomainFilter.Proofs.Calendar.DateText

namespace DomainFilter

namespace Calendar

/-! ## §A Texts that spell out no date -/

/-- No date starts with this character: it is no digit, no sign and no white space. -/
structure StartsNoDate (c : Char) : Prop where
  not_digit : c.isDigit = false
  not_hyphen : c ≠ '-'
  not_plus : c ≠ '+'
  not_blank : Text.isBlank c = false

namespace StartsNoDate

variable {c : Char} (h : StartsNoDate c) (s : List Char)

include h

theorem looseYear_eq_none : looseYear (c :: s) = none := by
  rw [looseYear, Text.trimStart_cons_of_not_blank h.not_blank]
  split
  · rename_i heq
    exact absurd (List.cons.inj heq).1 h.not_hyphen
  · rename_i heq
    exact absurd (List.cons.inj heq).1 h.not_plus
  · rw [Digits.number?_of_not_digit (by decide) h.not_digit]
    rfl

theorem looseDate_eq_none : looseDate (c :: s) = none := by
  rw [looseDate, h.looseYear_eq_none]
  rfl

/-- Such a text is no year and no month that could be brought to a full date. -/
theorem completeDate_eq : completeDate (c :: s) = c :: s := by
  obtain ⟨rest, hrest⟩ := Text.segments_eq_cons '-' (c :: s)
  have hfirst : (c :: s).takeWhile (· != '-') = c :: s.takeWhile (· != '-') :=
    List.takeWhile_cons_of_pos (by simp [h.not_hyphen])
  -- what would be a year starts with that character
  have hyear : isDigits 4 (c :: s.takeWhile (· != '-')) = false := by
    simp [isDigits, h.not_digit]
  rw [completeDate, hrest, hfirst]
  cases rest with
  | nil => simp only [hyear, Bool.false_eq_true, if_false]
  | cons month rest =>
    cases rest with
    | nil => simp only [hyear, Bool.false_eq_true, false_and, if_false]
    | cons day rest => rfl

/-- **`spelledOut?_eq_none`** — a text that starts so and has no white space spells out nothing. -/
theorem spelledOut?_eq_none (zone : Zone) (hblank : ∀ d ∈ s, Text.isBlank d = false) :
    spelledOut? zone (c :: s) = none := by
  have htrim : Text.trim (c :: s) = c :: s :=
    Text.trim_of_no_blank (List.forall_mem_cons.mpr ⟨h.not_blank, hblank⟩)
  -- every form starts with a year
  have hstrict : rfc3339? (c :: s) = none := by
    rw [rfc3339?, Digits.number?_of_not_digit (by decide) h.not_digit]
    rfl
  have hdate : date? (c :: s) = none := by
    rw [date?, h.looseDate_eq_none]
    rfl
  have hlocal : ∀ mark, localTime? mark (c :: s) = none := by
    intro mark
    rw [localTime?, h.looseDate_eq_none]
    rfl
  rw [spelledOut?, htrim]
  simp only [hstrict, h.completeDate_eq, hdate, hlocal]

end StartsNoDate

end Calendar

/-! ## §B Names -/

/-- The word for a shift. -/
def PeriodShift.word : PeriodShift → String
  | .previous => "prev"
  | .this => "this"
  | .next => "next"

/-- The word for a unit. -/
def PeriodUnit.word : PeriodUnit → String
  | .day => "day"
  | .week => "week"
  | .month => "month"
  | .year => "year"

/-- The word for a bound. -/
def PeriodBound.word : PeriodBound → String
  | .first => "first"
  | .last => "last"

namespace Calendar

/-- The text that names a bound of a period. -/
def writePeriodName (shift : PeriodShift) (unit : PeriodUnit) (bound : PeriodBound) : String :=
  "date." ++ shift.word ++ "." ++ unit.word ++ "." ++ bound.word

/-- The characters of words: small letters, which are their own lower case and no white space. -/
def InWord (c : Char) : Prop :=
  c ≠ '.' ∧ (c ≠ 'Σ' ∧ Text.lowerChar c = [c]) ∧ Text.isBlank c = false

instance : DecidablePred InWord := fun _ => inferInstanceAs (Decidable (_ ∧ _))

theorem inWord_of_all {word : List Char} (h : word.all (fun c => decide (InWord c)) = true) :
    ∀ c ∈ word, InWord c :=
  fun c hc => of_decide_eq_true (List.all_eq_true.mp h c hc)

theorem inWord_date : ∀ c ∈ "date".toList, InWord c := inWord_of_all (by decide +kernel)

section

variable (shift : PeriodShift) (unit : PeriodUnit) (bound : PeriodBound)

theorem inWord_shift : ∀ c ∈ shift.word.toList, InWord c := by
  apply inWord_of_all
  cases shift <;> decide +kernel

theorem inWord_unit : ∀ c ∈ unit.word.toList, InWord c := by
  apply inWord_of_all
  cases unit <;> decide +kernel

theorem inWord_bound : ∀ c ∈ bound.word.toList, InWord c := by
  apply inWord_of_all
  cases bound <;> decide +kernel

theorem toList_writePeriodName :
    (writePeriodName shift unit bound).toList
      = "date".toList ++ '.' :: (shift.word.toList ++ '.' :: (unit.word.toList
          ++ '.' :: bound.word.toList)) := by
  simp [writePeriodName]

/-- A name is made of words and dots. -/
theorem inWord_of_mem_writePeriodName {c : Char}
    (hc : c ∈ (writePeriodName shift unit bound).toList) : c = '.' ∨ InWord c := by
  rw [toList_writePeriodName] at hc
  simp only [List.mem_append, List.mem_cons] at hc
  rcases hc with hc | hc | hc | hc | hc | hc | hc
  · exact .inr (inWord_date c hc)
  · exact .inl hc
  · exact .inr (inWord_shift shift c hc)
  · exact .inl hc
  · exact .inr (inWord_unit unit c hc)
  · exact .inl hc
  · exact .inr (inWord_bound bound c hc)

theorem lower_writePeriodName :
    Text.lower (writePeriodName shift unit bound).toList
      = (writePeriodName shift unit bound).toList := by
  refine Text.lower_of_fixed fun c hc => ?_
  rcases inWord_of_mem_writePeriodName shift unit bound hc with rfl | hword
  · decide +kernel
  · exact hword.2.1

theorem segments_writePeriodName :
    Text.segments '.' (writePeriodName shift unit bound).toList
      = ["date".toList, shift.word.toList, unit.word.toList, bound.word.toList] := by
  have hdate : '.' ∉ "date".toList := fun h => (inWord_date _ h).1 rfl
  have hshift : '.' ∉ shift.word.toList := fun h => (inWord_shift shift _ h).1 rfl
  have hunit : '.' ∉ unit.word.toList := fun h => (inWord_unit unit _ h).1 rfl
  have hbound : '.' ∉ bound.word.toList := fun h => (inWord_bound bound _ h).1 rfl
  rw [toList_writePeriodName, Text.segments_append hdate, Text.segments_append hshift,
    Text.segments_append hunit, Text.segments_of_not_mem hbound]

theorem shiftOf_word : shiftOf shift.word.toList = shift := by
  cases shift <;> decide +kernel

theorem unitOf?_word : unitOf? unit.word.toList = some unit := by
  cases unit <;> decide +kernel

theorem boundOf_word : boundOf [bound.word.toList] = bound := by
  cases bound <;> decide +kernel

/-- **`periodName?_writePeriodName`** — a name is read back. -/
theorem periodName?_writePeriodName :
    periodName? (Text.lower (writePeriodName shift unit bound).toList)
      = some ⟨shift, some unit, bound⟩ := by
  rw [lower_writePeriodName, periodName?, segments_writePeriodName]
  simp only [if_true, shiftOf_word, unitOf?_word, boundOf_word]

example : writePeriodName .this .month .last = "date.this.month.last" := by decide +kernel

/-- A name spells out no date. -/
theorem spelledOut?_writePeriodName (zone : Zone) :
    spelledOut? zone (writePeriodName shift unit bound).toList = none := by
  have hblank : ∀ c ∈ (writePeriodName shift unit bound).toList, Text.isBlank c = false := by
    intro c hc
    rcases inWord_of_mem_writePeriodName shift unit bound hc with rfl | hword
    · decide
    · exact hword.2.2
  have hstart : StartsNoDate 'd' := ⟨by decide, by decide, by decide, by decide⟩
  rw [toList_writePeriodName] at hblank ⊢
  exact hstart.spelledOut?_eq_none _ zone fun c hc => hblank c (List.mem_cons_of_mem 'd' hc)

/-- A name is a reference to a date. -/
theorem ofText_writePeriodName :
    Symbol.ofText (writePeriodName shift unit bound)
      = .date (writePeriodName shift unit bound) := by
  have hname := toList_writePeriodName shift unit bound
  unfold Symbol.ofText Symbol.after?
  rw [hname]
  rfl

/-- A name means the midnight that it names. -/
theorem resolve_of_namedMidnight {zone : Zone} {now midnight : Instant}
    (h : namedMidnight zone ⟨shift, some unit, bound⟩ now = .ok (some midnight)) :
    resolve zone (writePeriodName shift unit bound).toList now = .ok midnight := by
  have hname : (writePeriodName shift unit bound).toList ≠ [] := by
    rw [toList_writePeriodName]
    exact List.cons_ne_nil _ _
  rw [resolve, if_neg hname, spelledOut?_writePeriodName]
  dsimp only
  rw [periodName?_writePeriodName]
  dsimp only
  rw [h]
  rfl

end

/-! ## §C Local midnights -/

/-- The local midnight that starts a day is an instant of the calendar. -/
def MidnightInCalendar (zone : Zone) (day : Int) : Prop :=
  firstDay * secondsPerDay ≤ day * secondsPerDay - zone.offset
    ∧ day * secondsPerDay - zone.offset < (lastDay + 1) * secondsPerDay

/-- A day of the calendar has its local midnight there, unless it is the first and local time is
ahead of universal time, or the last and local time is behind. -/
theorem midnightInCalendar_of {zone : Zone} {day : Int}
    (hfirst : firstDay < day ∨ firstDay ≤ day ∧ zone.offset ≤ 0)
    (hlast : day < lastDay ∨ day ≤ lastDay ∧ 0 ≤ zone.offset) : MidnightInCalendar zone day := by
  have hlower := zone.lower
  have hupper := zone.upper
  unfold MidnightInCalendar
  simp only [secondsPerDay] at *
  omega

/-- The nanoseconds at the start of a second are in range. -/
theorem noNanos_lt : 0 < 2 * nanosPerSecond := by decide

theorem exists_localMidnight {zone : Zone} {day : Int} (h : MidnightInCalendar zone day) :
    ∃ midnight, (LocalTime.midnight day).toInstant? zone.offset = some midnight
      ∧ midnight.second = day * secondsPerDay - zone.offset ∧ midnight.nano = 0 := by
  have hinside : firstDay * secondsPerDay ≤ day * secondsPerDay + (0 : Nat) - zone.offset
      ∧ day * secondsPerDay + (0 : Nat) - zone.offset < (lastDay + 1) * secondsPerDay
      ∧ 0 < 2 * nanosPerSecond := by
    obtain ⟨hfirst, hlast⟩ := h
    exact ⟨by omega, by omega, noNanos_lt⟩
  exact ⟨⟨_, 0, hinside.1, hinside.2.1, hinside.2.2⟩, dif_pos hinside, by simp, rfl⟩

/-- Such an instant reads as the start of the day in local time. -/
theorem readAt_of_midnight {zone : Zone} {midnight : Instant} {day : Int}
    (hsecond : midnight.second = day * secondsPerDay - zone.offset) (hnano : midnight.nano = 0) :
    midnight.readAt zone.offset = .midnight day := by
  have hpositive : (secondsPerDay : Int) ≠ 0 := by decide
  rw [Instant.readAt, hsecond, hnano, Int.sub_add_cancel, Int.mul_ediv_cancel _ hpositive,
    Int.mul_emod_left]
  rfl

/-- The clock is two years or more away from both ends of the calendar, in universal time or by its
local date. -/
def TwoYearsInside (zone : Zone) (now : Instant) : Prop :=
  WellInside now.utcDay ∨ WellInside (now.readAt zone.offset).day

namespace TwoYearsInside

variable {zone : Zone} {now : Instant}

/-- Local time that is ahead may be on the next day, and local time that is behind on the day
before. -/
theorem localDay_near (zone : Zone) (now : Instant) :
    now.utcDay - 1 ≤ (now.readAt zone.offset).day ∧ (now.readAt zone.offset).day ≤ now.utcDay + 1
      ∧ (0 ≤ zone.offset → now.utcDay ≤ (now.readAt zone.offset).day)
      ∧ (zone.offset ≤ 0 → (now.readAt zone.offset).day ≤ now.utcDay) := by
  have hlower := zone.lower
  have hupper := zone.upper
  simp only [Instant.utcDay, Instant.readAt, secondsPerDay] at *
  omega

theorem betweenYears (h : TwoYearsInside zone now) : BetweenYears (now.readAt zone.offset).day := by
  obtain ⟨hlow, hhigh, -, -⟩ := localDay_near zone now
  rcases h with ⟨hfirst, hlast⟩ | h
  · have hstart : startOfYear (-262141) ≤ now.utcDay := le_yearOf_iff.mp hfirst
    have hend : now.utcDay < startOfYear 262141 :=
      not_le.mp fun hle => absurd (le_yearOf_iff.mpr hle) (by omega)
    have hbefore : startOfYear (-262142) + 365 = startOfYear (-262141) := rfl
    have hafter : startOfYear 262141 + 365 = startOfYear 262142 := rfl
    refine ⟨le_yearOf_iff.mpr (by omega), Int.lt_add_one_iff.mp (not_le.mp fun hle => ?_)⟩
    have hpast : startOfYear 262142 ≤ (now.readAt zone.offset).day := le_yearOf_iff.mp hle
    omega
  · exact h.betweenYears

/-- The bounds of the periods around such a clock have their local midnights in the calendar. One
that is the first day of the calendar is only asked for where local time is behind, and one that is
the last where it is ahead. -/
theorem midnightInCalendar (h : TwoYearsInside zone now) (unit : PeriodUnit) (shift : PeriodShift)
    (bound : PeriodBound) :
    MidnightInCalendar zone (boundDay unit shift bound (now.readAt zone.offset).day) := by
  obtain ⟨hlow, hhigh⟩ := h.betweenYears.boundDay_inside unit shift bound
  obtain ⟨-, -, hahead, hbehind⟩ := localDay_near zone now
  apply midnightInCalendar_of
  · by_cases hoffset : zone.offset ≤ 0
    · exact .inr ⟨hlow, hoffset⟩
    · refine .inl (firstDay_lt_boundDay ?_ unit shift bound)
      rcases h with h | h
      · exact le_trans h.1 (yearOf_mono (hahead (by omega)))
      · exact h.1
  · by_cases hoffset : 0 ≤ zone.offset
    · exact .inr ⟨hhigh, hoffset⟩
    · refine .inl (boundDay_lt_lastDay ?_ unit shift bound)
      rcases h with h | h
      · exact le_trans (yearOf_mono (hbehind (by omega))) h.2
      · exact h.2

end TwoYearsInside

/-- **`resolve_writePeriodName`** — two years inside the calendar the name of a bound means the local
midnight that starts the day of the bound, with the offset taken off. -/
theorem resolve_writePeriodName {zone : Zone} {now : Instant} (h : TwoYearsInside zone now)
    (shift : PeriodShift) (unit : PeriodUnit) (bound : PeriodBound) :
    ∃ midnight, resolve zone (writePeriodName shift unit bound).toList now = .ok midnight
      ∧ midnight.second
          = boundDay unit shift bound (now.readAt zone.offset).day * secondsPerDay - zone.offset
      ∧ midnight.nano = 0 := by
  have htoday : checked? (now.readAt zone.offset).day = some (now.readAt zone.offset).day := by
    obtain ⟨hfirst, hlast⟩ := h.betweenYears.inside
    exact checked?_eq_some hfirst hlast
  obtain ⟨midnight, hmidnight, hsecond, hnano⟩ :=
    exists_localMidnight (h.midnightInCalendar unit shift bound)
  have hnamed : namedMidnight zone ⟨shift, some unit, bound⟩ now = .ok (some midnight) := by
    rw [namedMidnight, htoday, ← hmidnight]
    dsimp only
    rw [h.betweenYears.periodBound_eq]
    rfl
  exact ⟨midnight, resolve_of_namedMidnight shift unit bound hnamed, hsecond, hnano⟩

/-! ## §D Their days in universal time -/

/-- **`utcDay_of_midnight`** — the midnight that starts a day is, in universal time, on that day, or
on the day before if local time is ahead. -/
theorem utcDay_of_midnight {zone : Zone} {midnight : Instant} {day : Int}
    (h : midnight.second = day * secondsPerDay - zone.offset) :
    midnight.utcDay = if 0 < zone.offset then day - 1 else day := by
  have hlower := zone.lower
  have hupper := zone.upper
  rw [Instant.utcDay, h]
  simp only [secondsPerDay] at *
  split <;> omega

end Calendar

end DomainFilter
