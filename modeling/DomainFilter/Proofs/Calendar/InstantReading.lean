/-
# DomainFilter.Proofs.Calendar.InstantReading — texts of instants are read back

A date reference is replaced by the text of its instant, in universal time and cut to milliseconds.
That text may be taken for a descriptor again. It spells out the instant, cut in the same way, before
any other reading of it is tried, so neither the clock nor the zone matters.

* §A The fields of the text: its fraction, its date and its time of day.
* §B **`rfc3339?_isoText`** — the strict form reads the text.
* §C **`resolve_isoText`** — as a descriptor the text means the instant, and that is written the same.

BOUNDARY: years from 0 to 9999, and leap seconds at the end of a minute. Other years start with a
sign, which the strict form does not read, and no text says a leap second elsewhere.
-/
import Mathlib.Data.Prod.Lex
import DomainFilter.Calendar.Descriptor
import DomainFilter.Proofs.Calendar.InstantText
import DomainFilter.Proofs.Calendar.Period
import DomainFilter.Proofs.Number.Digits

namespace DomainFilter

namespace Calendar

/-! ## §A Fields -/

theorem literal_cons (c : Char) (s : List Char) : literal c (c :: s) = some s := if_pos rfl

theorem dateTimeMark_cons (s : List Char) : dateTimeMark ('T' :: s) = some s := rfl

/-- Three digits after the point count milliseconds. -/
theorem fraction_writeMillis {nano : Nat} (h : nano / 1000000 < Nat.pow 10 3) (rest : List Char)
    (hrest : rest.takeWhile Char.isDigit = []) :
    fraction (writeMillis nano ++ rest) = some (nano / 1000000 * 1000000, rest) := by
  have hlength := Digits.length_writePadded h
  have hrun : Digits.takeRun 9 (Digits.writePadded 3 (nano / 1000000) ++ rest)
      = (Digits.writePadded 3 (nano / 1000000), rest) := by
    apply Digits.takeRun_append_of_digits fun _ hc => Digits.isDigit_of_mem_writePadded hc
    · rw [hlength]
      decide
    · exact .inr hrest
  have hkept : rest.dropWhile Char.isDigit = rest := Digits.dropWhile_eq_self hrest
  have hread := Digits.read_writePadded 3 (nano / 1000000)
  simp only [writeMillis, List.cons_append, fraction, hrun]
  cases hdigits : Digits.writePadded 3 (nano / 1000000) with
  | nil => exact absurd hdigits (Digits.writePadded_ne_nil 3 _)
  | cons c digits =>
    rw [hdigits] at hread hlength
    simp only [hread, hlength, hkept]

/-- The day that the date of a day says is that day, if it is in the calendar. -/
theorem toDay?_ofDay {day : Int} (hfirst : firstDay ≤ day) (hlast : day ≤ lastDay) :
    (CivilDate.ofDay day).toDay? = some day := by
  rw [toDay?_of_valid (CivilDate.isValid_ofDay day), CivilDate.toDay_ofDay,
    checked?_eq_some hfirst hlast]

end Calendar

namespace Instant

open Calendar

theorem utcDay_inside (t : Instant) : firstDay ≤ t.utcDay ∧ t.utcDay ≤ lastDay := by
  have hfirst := t.first_le
  have hend := t.lt_end
  simp only [utcDay, secondsPerDay] at *
  omega

/-- The time of day that is written is that of the instant, cut to milliseconds. The second after 59
is the leap second. -/
theorem timeOfDay?_fields {t : Instant} (h : t.Plain) :
    timeOfDay? ((t.readAt 0).second / 3600) ((t.readAt 0).second / 60 % 60)
        (t.readAt 0).secondOfMinute ((t.readAt 0).fractionNano / 1000000 * 1000000)
      = some ((t.readAt 0).second, t.truncated.nano) := by
  have hleap := h.leap
  have hnano := t.nano_lt
  simp only [readAt, LocalTime.secondOfMinute, LocalTime.fractionNano, truncated, secondsPerDay,
    nanosPerSecond, Int.add_zero, timeOfDay?] at *
  split
  · split
    · simp only [Option.some_inj, Prod.mk.injEq]
      omega
    · simp only [Option.some_inj, Prod.mk.injEq]
      omega
  · omega

/-- The fields of the text read as the instant, cut to milliseconds. -/
theorem reading?_fields {t : Instant} (h : t.Plain) :
    reading? (CivilDate.ofDay t.utcDay) ((t.readAt 0).second / 3600)
        ((t.readAt 0).second / 60 % 60) (t.readAt 0).secondOfMinute
        ((t.readAt 0).fractionNano / 1000000 * 1000000)
      = some (t.truncated.readAt 0) := by
  obtain ⟨hfirst, hlast⟩ := t.utcDay_inside
  have hday : t.utcDay = (t.truncated.readAt 0).day := by
    rw [readAt, utcDay, Int.add_zero]
    rfl
  rw [reading?, toDay?_ofDay hfirst hlast, timeOfDay?_fields h, hday]
  rfl

/-- What an instant reads in universal time means the instant. -/
theorem toInstant?_readAt_zero (t : Instant) : (t.readAt 0).toInstant? 0 = some t := by
  have hsecond : (t.readAt 0).day * secondsPerDay + (t.readAt 0).second - 0 = t.second := by
    simp only [readAt, secondsPerDay]
    omega
  rw [LocalTime.toInstant?, hsecond, ofSeconds?]
  exact dif_pos ⟨t.first_le, t.lt_end, t.nano_lt⟩

/-! ## §B The strict form -/

/-- A reader that has an answer hands it on. -/
theorem bind_of_eq_some {α β : Type} {read : Option α} {a : α} (h : read = some a)
    (next : α → Option β) : (read >>= next) = next a := by
  rw [h]
  rfl

/-- The strict form reads each field where it stands and leaves the rest of the text. -/
theorem rfc3339?_fields {year month day hour minute second nano : Nat}
    (hyear : year < Nat.pow 10 4) (hmonth : month < Nat.pow 10 2) (hday : day < Nat.pow 10 2)
    (hhour : hour < Nat.pow 10 2) (hminute : minute < Nat.pow 10 2)
    (hsecond : second < Nat.pow 10 2) (hmillis : nano / 1000000 < Nat.pow 10 3) :
    rfc3339? (Digits.writePadded 4 year ++ '-' :: (Digits.writePadded 2 month
        ++ '-' :: (Digits.writePadded 2 day ++ 'T' :: (Digits.writePadded 2 hour
        ++ ':' :: (Digits.writePadded 2 minute ++ ':' :: (Digits.writePadded 2 second
        ++ (writeMillis nano ++ ['Z'])))))))
      = (reading? ⟨year, month, day⟩ hour minute second (nano / 1000000 * 1000000)).bind
          (·.toInstant? 0) := by
  unfold rfc3339?
  refine (bind_of_eq_some (Digits.number?_writePadded hyear _) _).trans ?_
  refine (bind_of_eq_some (literal_cons '-' _) _).trans ?_
  refine (bind_of_eq_some (Digits.number?_writePadded hmonth _) _).trans ?_
  refine (bind_of_eq_some (literal_cons '-' _) _).trans ?_
  refine (bind_of_eq_some (Digits.number?_writePadded hday _) _).trans ?_
  refine (bind_of_eq_some (dateTimeMark_cons _) _).trans ?_
  refine (bind_of_eq_some (Digits.number?_writePadded hhour _) _).trans ?_
  refine (bind_of_eq_some (literal_cons ':' _) _).trans ?_
  refine (bind_of_eq_some (Digits.number?_writePadded hminute _) _).trans ?_
  refine (bind_of_eq_some (literal_cons ':' _) _).trans ?_
  refine (bind_of_eq_some (Digits.number?_writePadded hsecond _) _).trans ?_
  exact bind_of_eq_some (fraction_writeMillis hmillis ['Z'] rfl) _

/-- **`rfc3339?_isoText`** — the strict form reads the text of an instant as the instant, cut to
milliseconds. -/
theorem rfc3339?_isoText {t : Instant} (h : t.Plain) : rfc3339? t.isoText = some t.truncated := by
  obtain ⟨hyear, hmonth, hday⟩ := h.fourDigitDate.fields
  obtain ⟨hhour, hminute, hsecond, hmillis⟩ := t.fields_lt
  have hyearValue : ((CivilDate.ofDay t.utcDay).year.toNat : Int)
      = (CivilDate.ofDay t.utcDay).year := Int.toNat_of_nonneg h.first
  have hread := rfc3339?_fields hyear hmonth hday hhour hminute hsecond hmillis
  rw [hyearValue, reading?_fields h, Option.bind_some, toInstant?_readAt_zero] at hread
  rw [isoText_eq_fields, writeDate, writeYear_eq h.fourDigitDate, ← hread]
  simp only [writeMillis, List.append_assoc, List.cons_append]

/-! ## §C Descriptors -/

/-- There is no white space in the text of an instant. -/
theorem not_blank_of_mem_isoText {t : Instant} (h : t.Plain) :
    ∀ c ∈ t.isoText, Text.isBlank c = false := by
  have hdigits : ∀ width n, ∀ c ∈ Digits.writePadded width n, Text.isBlank c = false :=
    fun _ _ _ hc => Text.isBlank_of_isDigit (Digits.isDigit_of_mem_writePadded hc)
  rw [isoText_eq_fields, writeDate, writeYear_eq h.fourDigitDate]
  simp only [List.forall_mem_append, List.forall_mem_cons, List.not_mem_nil, false_implies,
    implies_true, and_true]
  exact ⟨⟨⟨hdigits _ _, rfl, hdigits _ _⟩, rfl, hdigits _ _⟩, rfl, hdigits _ _, rfl, hdigits _ _, rfl,
    hdigits _ _, rfl, hdigits _ _, rfl⟩

/-- Cutting to milliseconds leaves the fields that are written. -/
theorem isoText_truncated (t : Instant) : t.truncated.isoText = t.isoText := by
  have hsecond : (t.truncated.readAt 0).secondOfMinute = (t.readAt 0).secondOfMinute := by
    simp only [LocalTime.secondOfMinute, readAt, truncated, nanosPerSecond]
    omega
  have hmillis : (t.truncated.readAt 0).fractionNano / 1000000
      = (t.readAt 0).fractionNano / 1000000 := by
    simp only [LocalTime.fractionNano, readAt, truncated, nanosPerSecond]
    omega
  have hclock : (t.truncated.readAt 0).second = (t.readAt 0).second := rfl
  have hday : t.truncated.utcDay = t.utcDay := rfl
  rw [isoText_eq_fields, isoText_eq_fields, hsecond, hmillis, hclock, hday]

/-- **`resolve_isoText`** — as a descriptor the text of an instant means that instant, cut to
milliseconds, in every zone and whatever the clock says; and the text of that is the same again. -/
theorem resolve_isoText {t : Instant} (h : t.Plain) (zone : Zone) (now : Instant) :
    Calendar.resolve zone t.isoText now = .ok t.truncated ∧ t.truncated.isoText = t.isoText := by
  have hnonempty : t.isoText ≠ [] := by
    rw [isoText]
    exact List.append_ne_nil_of_right_ne_nil _ (List.cons_ne_nil _ _)
  have hspelled : spelledOut? zone t.isoText = some t.truncated := by
    rw [spelledOut?, Text.trim_of_no_blank (not_blank_of_mem_isoText h), rfc3339?_isoText h]
  refine ⟨?_, t.isoText_truncated⟩
  rw [Calendar.resolve, if_neg hnonempty, hspelled]

/-- Six tenths and a little more into the leap second at the end of June 2015. -/
def midLeapSecond : Instant :=
  ⟨(Calendar.startOfYear 2015 + 181) * 86400 - 1, 1612345678, by decide, by decide, by decide⟩

/-- Its text ends in second 60, and means it to the millisecond also to a clock far away. -/
theorem resolve_isoText_of_midLeapSecond :
    midLeapSecond.Plain
      ∧ midLeapSecond.isoText = "2015-06-30T23:59:60.612Z".toList
      ∧ Calendar.resolve ⟨19800, by decide, by decide⟩ "2015-06-30T23:59:60.612Z".toList
          ⟨0, 0, by decide, by decide, by decide⟩ = .ok midLeapSecond.truncated := by
  have hplain : midLeapSecond.Plain := by decide
  have htext : midLeapSecond.isoText = "2015-06-30T23:59:60.612Z".toList := by decide +kernel
  refine ⟨hplain, htext, ?_⟩
  rw [← htext]
  exact (resolve_isoText hplain _ _).1

end Instant

end DomainFilter
