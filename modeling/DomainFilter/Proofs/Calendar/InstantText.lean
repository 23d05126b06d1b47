/-
# DomainFilter.Proofs.Calendar.InstantText — texts of instants in the order of the instants

Instants are compared as texts in universal time, cut to milliseconds. For years from 0 to 9999 all
fields have a fixed width, so the texts are in the order of the instants, cut in the same way.

* §A The order of instants, and instants cut to milliseconds.
* §B The minutes of universal time and the milliseconds of a minute, of which the last has a thousand
  more if it ends in a leap second.
* §C **`order_isoText`** — texts compare like the instants.

BOUNDARY: a leap second in the middle of a minute, which no text says, is written as the second after
it.
-/
import Mathlib.Data.Prod.Lex
import DomainFilter.Proofs.Calendar.DateText

namespace DomainFilter

namespace Instant

/-! ## §A The order of instants -/

/-- An instant as its second and its nanoseconds. -/
def key (t : Instant) : Int ×ₗ Nat := toLex (t.second, t.nano)

theorem key_injective : Function.Injective key := by
  intro t r h
  obtain ⟨second, nano, _⟩ := t
  obtain ⟨second', nano', _⟩ := r
  obtain ⟨rfl, rfl⟩ : second = second' ∧ nano = nano' := Prod.mk.inj h
  rfl

/-- Instants are in the order of their seconds, and within a second of their nanoseconds; so a leap
second comes after the second it follows. -/
instance : LinearOrder Instant := LinearOrder.lift' key key_injective

theorem lt_iff {t r : Instant} :
    t < r ↔ t.second < r.second ∨ t.second = r.second ∧ t.nano < r.nano :=
  Prod.Lex.toLex_lt_toLex

theorem eq_iff {t r : Instant} : t = r ↔ t.second = r.second ∧ t.nano = r.nano :=
  key_injective.eq_iff.symm.trans Prod.mk_inj

/-- An instant cut to milliseconds. -/
def truncated (t : Instant) : Instant where
  second := t.second
  nano := t.nano / 1000000 * 1000000
  first_le := t.first_le
  lt_end := t.lt_end
  nano_lt := Nat.lt_of_le_of_lt (Nat.div_mul_le_self t.nano 1000000) t.nano_lt

/-! ## §B Minutes -/

/-- The minutes of universal time before an instant. -/
def minute (t : Instant) : Int := t.second / 60

/-- The milliseconds of its minute before an instant. -/
def millisOfMinute (t : Instant) : Int := t.second % 60 * 1000 + (t.nano / 1000000 : Nat)

/-- The instants that are written so that they can be read back: the year has four digits and no
sign, and a leap second is at the end of its minute. -/
structure Plain (t : Instant) : Prop where
  first : 0 ≤ Calendar.yearOf t.utcDay
  last : Calendar.yearOf t.utcDay ≤ 9999
  leap : nanosPerSecond ≤ t.nano → t.second % 60 = 59

instance (t : Instant) : Decidable t.Plain :=
  decidable_of_iff (0 ≤ Calendar.yearOf t.utcDay ∧ Calendar.yearOf t.utcDay ≤ 9999
      ∧ (nanosPerSecond ≤ t.nano → t.second % 60 = 59))
    ⟨fun ⟨first, last, leap⟩ => ⟨first, last, leap⟩, fun h => ⟨h.first, h.last, h.leap⟩⟩

theorem Plain.fourDigitDate {t : Instant} (h : t.Plain) :
    Calendar.FourDigitDate (CivilDate.ofDay t.utcDay) :=
  ⟨CivilDate.isValid_ofDay t.utcDay, h.first, h.last⟩

/-- Cut to milliseconds, instants compare by minutes and by the milliseconds of a minute. -/
theorem compare_truncated {t r : Instant} (ht : t.Plain) (hr : r.Plain) :
    (compare t.minute r.minute).then (compare t.millisOfMinute r.millisOfMinute)
      = compare t.truncated r.truncated := by
  have htLeap := ht.leap
  have hrLeap := hr.leap
  have htNano := t.nano_lt
  have hrNano := r.nano_lt
  -- a second has a thousand milliseconds, unless it is the last of its minute
  simp only [minute, millisOfMinute, nanosPerSecond] at *
  apply compare_then_eq
  · rw [lt_iff]
    simp only [truncated]
    omega
  · rw [lt_iff]
    simp only [truncated]
    omega
  · rw [eq_iff]
    simp only [truncated]
    omega

/-! ## §C The texts -/

/-- The day, the hour and the minute of the hour count the minutes. -/
theorem compare_minute (t r : Instant) :
    (compare t.utcDay r.utcDay).then
        ((compare ((t.readAt 0).second / 3600) ((r.readAt 0).second / 3600)).then
          (compare ((t.readAt 0).second / 60 % 60) ((r.readAt 0).second / 60 % 60)))
      = compare t.minute r.minute := by
  have hday : (compare ((t.readAt 0).second / 3600) ((r.readAt 0).second / 3600)).then
        (compare ((t.readAt 0).second / 60 % 60) ((r.readAt 0).second / 60 % 60))
      = compare ((t.readAt 0).second / 60) ((r.readAt 0).second / 60) := by
    apply compare_then_eq
    · omega
    · omega
    · omega
  rw [hday]
  simp only [readAt, utcDay, minute, secondsPerDay, Int.add_zero]
  apply compare_then_eq
  · omega
  · omega
  · omega

/-- The second that is written and the milliseconds after it count the milliseconds of the minute. -/
theorem compare_millisOfMinute (t r : Instant) :
    (compare (t.readAt 0).secondOfMinute (r.readAt 0).secondOfMinute).then
        (compare ((t.readAt 0).fractionNano / 1000000) ((r.readAt 0).fractionNano / 1000000))
      = compare t.millisOfMinute r.millisOfMinute := by
  simp only [readAt, LocalTime.secondOfMinute, LocalTime.fractionNano, millisOfMinute,
    secondsPerDay, nanosPerSecond, Int.add_zero]
  apply compare_then_eq
  · omega
  · omega
  · omega

/-- The numbers of a time of day fit into its fields. -/
theorem fields_lt (t : Instant) :
    (t.readAt 0).second / 3600 < Nat.pow 10 2 ∧ (t.readAt 0).second / 60 % 60 < Nat.pow 10 2
      ∧ (t.readAt 0).secondOfMinute < Nat.pow 10 2
      ∧ (t.readAt 0).fractionNano / 1000000 < Nat.pow 10 3 := by
  have hnano := t.nano_lt
  simp only [readAt, LocalTime.secondOfMinute, LocalTime.fractionNano, secondsPerDay,
    nanosPerSecond, Nat.pow_eq, Nat.reducePow] at *
  omega

/-- **`order_isoText`** — texts of instants compare like the instants, cut to milliseconds. -/
theorem order_isoText {t r : Instant} (ht : t.Plain) (hr : r.Plain) :
    Text.order t.isoText r.isoText = compare t.truncated r.truncated := by
  obtain ⟨htHour, htMinute, htSecond, htMillis⟩ := t.fields_lt
  obtain ⟨hrHour, hrMinute, hrSecond, hrMillis⟩ := r.fields_lt
  rw [isoText_eq_fields, isoText_eq_fields,
    Calendar.order_writeDate_append ht.fourDigitDate hr.fourDigitDate, Text.order_cons,
    Digits.order_writePadded_append htHour hrHour, Text.order_cons,
    Digits.order_writePadded_append htMinute hrMinute, Text.order_cons,
    Digits.order_writePadded_append htSecond hrSecond, Text.order_cons,
    Digits.order_writePadded_append htMillis hrMillis, Text.order_self, Ordering.then_eq,
    CivilDate.toDay_ofDay, CivilDate.toDay_ofDay, compare_millisOfMinute,
    ← compare_truncated ht hr, ← compare_minute, Ordering.then_assoc, Ordering.then_assoc]

end Instant

end DomainFilter
