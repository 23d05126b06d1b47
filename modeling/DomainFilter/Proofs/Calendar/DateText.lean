/-
# DomainFilter.Proofs.Calendar.DateText — texts of dates in the order of the dates

Dates and instants are compared as texts. For years from 0 to 9999 all fields have a fixed width, so
texts of dates are in the order of their days, whatever follows them. A date alone comes before the
text of every instant of its own day, because that goes on where the date ends.

* §A Texts with parts of the same length in front.
* §B **`order_writePadded`** — padded digits are in the order of their numbers.
* §C **`order_writeDate_append`** — dates, and what follows them.
* §D **`order_writeDate_isoText`** — a date against an instant.

BOUNDARY: years outside that range start with a sign, and a sign comes before every digit.
-/
import Mathlib.Order.Compare
import Mathlib.Order.Lattice
import DomainFilter.Text.Order
import DomainFilter.Calendar.Written
import DomainFilter.Proofs.Calendar.Civil
import DomainFilter.Proofs.Number.Digits

namespace DomainFilter

/-! ## §A Parts in front -/

/-- Two parts that are compared one after the other stand for a whole if the order of the whole
follows from theirs. -/
theorem compare_then_eq {α β γ : Type} [LinearOrder α] [LinearOrder β] [LinearOrder γ] {a a' : α}
    {b b' : β} {c c' : γ} (hlt : a < a' ∨ a = a' ∧ b < b' → c < c')
    (hgt : a' < a ∨ a' = a ∧ b' < b → c' < c) (heq : a = a' → b = b' → c = c') :
    (compare a a').then (compare b b') = compare c c' := by
  rcases lt_trichotomy a a' with h | h | h
  · rw [compare_lt_iff_lt.mpr h, compare_lt_iff_lt.mpr (hlt (.inl h))]
    rfl
  · -- with the same first parts the second ones decide
    rw [compare_eq_iff_eq.mpr h, Ordering.eq_then]
    rcases lt_trichotomy b b' with hb | hb | hb
    · rw [compare_lt_iff_lt.mpr hb, compare_lt_iff_lt.mpr (hlt (.inr ⟨h, hb⟩))]
    · rw [compare_eq_iff_eq.mpr hb, compare_eq_iff_eq.mpr (heq h hb)]
    · rw [compare_gt_iff_gt.mpr hb, compare_gt_iff_gt.mpr (hgt (.inr ⟨h.symm, hb⟩))]
  · rw [compare_gt_iff_gt.mpr h, compare_gt_iff_gt.mpr (hgt (.inl h))]
    rfl

namespace Text

/-- Parts of the same length decide, unless they are the same. -/
theorem order_append {a b : List Char} (h : a.length = b.length) (s t : List Char) :
    order (a ++ s) (b ++ t) = (order a b).then (order s t) := by
  induction a generalizing b with
  | nil =>
    rw [List.length_eq_zero_iff.mp h.symm]
    rfl
  | cons c a ih =>
    cases b with
    | nil => cases h
    | cons d b =>
      have hrest := ih (Nat.succ.inj h)
      simp only [List.cons_append, order]
      split
      · rfl
      · split
        · rfl
        · exact hrest

theorem order_cons (c : Char) (s t : List Char) : order (c :: s) (c :: t) = order s t := by
  simp [order]

end Text

/-! ## §B Padded digits -/

namespace Digits

theorem order_digitChar {m n : Nat} (hm : m < 10) (hn : n < 10) :
    Text.order [Nat.digitChar m] [Nat.digitChar n] = compare m n := by
  have hmChar := Nat.toNat_digitChar_of_lt_ten hm
  have hnChar := Nat.toNat_digitChar_of_lt_ten hn
  simp only [Text.order, hmChar, hnChar]
  rcases lt_trichotomy m n with h | h | h
  · rw [if_pos (by omega), compare_lt_iff_lt.mpr h]
  · rw [if_neg (by omega), if_neg (by omega), compare_eq_iff_eq.mpr h]
  · rw [if_neg (by omega), if_pos (by omega), compare_gt_iff_gt.mpr h]

theorem compare_div_mod (m n : Nat) :
    (compare (m / 10) (n / 10)).then (compare (m % 10) (n % 10)) = compare m n := by
  apply compare_then_eq
  · omega
  · omega
  · omega

/-- **`order_writePadded`** — digits padded to the same width are in the order of their numbers. -/
theorem order_writePadded {width m n : Nat} (hm : m < Nat.pow 10 (width + 1))
    (hn : n < Nat.pow 10 (width + 1)) :
    Text.order (writePadded (width + 1) m) (writePadded (width + 1) n) = compare m n := by
  induction width generalizing m n with
  | zero =>
    have hmDigit : m < 10 := by simpa using hm
    have hnDigit : n < 10 := by simpa using hn
    rw [writePadded_one hmDigit, writePadded_one hnDigit, order_digitChar hmDigit hnDigit]
  | succ width ih =>
    have hmRest : m / 10 < Nat.pow 10 (width + 1) := by
      rw [Nat.pow_eq, Nat.pow_succ] at hm
      rw [Nat.pow_eq]
      omega
    have hnRest : n / 10 < Nat.pow 10 (width + 1) := by
      rw [Nat.pow_eq, Nat.pow_succ] at hn
      rw [Nat.pow_eq]
      omega
    have hlength : (writePadded (width + 1) (m / 10)).length
        = (writePadded (width + 1) (n / 10)).length := by
      rw [length_writePadded hmRest, length_writePadded hnRest]
    rw [writePadded_succ, writePadded_succ, Text.order_append hlength, ih hmRest hnRest,
      order_digitChar (Nat.mod_lt _ (by decide)) (Nat.mod_lt _ (by decide)), compare_div_mod]

/-- The same with more text behind the digits. -/
theorem order_writePadded_append {width m n : Nat} (hm : m < Nat.pow 10 (width + 1))
    (hn : n < Nat.pow 10 (width + 1)) (s t : List Char) :
    Text.order (writePadded (width + 1) m ++ s) (writePadded (width + 1) n ++ t)
      = (compare m n).then (Text.order s t) := by
  have hlength : (writePadded (width + 1) m).length = (writePadded (width + 1) n).length := by
    rw [length_writePadded hm, length_writePadded hn]
  rw [Text.order_append hlength, order_writePadded hm hn]

end Digits

/-! ## §C Dates -/

namespace Calendar

/-- A date that exists and whose year is written with four digits and no sign. -/
structure FourDigitDate (date : CivilDate) : Prop where
  valid : date.IsValid
  first : 0 ≤ date.year
  last : date.year ≤ 9999

theorem writeYear_eq {date : CivilDate} (h : FourDigitDate date) :
    writeYear date.year = Digits.writePadded 4 date.year.toNat := by
  rw [writeYear, if_pos ⟨h.first, h.last⟩]

theorem compare_toNat {a b : Int} (ha : 0 ≤ a) (hb : 0 ≤ b) :
    compare a.toNat b.toNat = compare a b := by
  rcases lt_trichotomy a b with h | h | h
  · rw [compare_lt_iff_lt.mpr h, compare_lt_iff_lt.mpr (by omega)]
  · rw [compare_eq_iff_eq.mpr h, compare_eq_iff_eq.mpr (by omega)]
  · rw [compare_gt_iff_gt.mpr h, compare_gt_iff_gt.mpr (by omega)]

/-- The numbers of a date fit into its fields. -/
theorem FourDigitDate.fields {date : CivilDate} (h : FourDigitDate date) :
    date.year.toNat < Nat.pow 10 4 ∧ date.month < Nat.pow 10 2 ∧ date.day < Nat.pow 10 2 := by
  obtain ⟨hfirst, hlast, -, hday⟩ := CivilDate.isValid_iff.mp h.valid
  have hlength := monthLength_bounds date.year date.month hfirst hlast
  have hyear := h.last
  simp only [Nat.pow_eq, Nat.reducePow]
  omega

/-- **`order_writeDate_append`** — texts that start with dates are in the order of the dates' days,
and on the same day in the order of what follows. -/
theorem order_writeDate_append {d e : CivilDate} (hd : FourDigitDate d) (he : FourDigitDate e)
    (s t : List Char) :
    Text.order (writeDate d ++ s) (writeDate e ++ t)
      = (compare d.toDay e.toDay).then (Text.order s t) := by
  obtain ⟨hdYear, hdMonth, hdDay⟩ := hd.fields
  obtain ⟨heYear, heMonth, heDay⟩ := he.fields
  simp only [writeDate, writeYear_eq hd, writeYear_eq he, List.append_assoc, List.cons_append]
  rw [Digits.order_writePadded_append hdYear heYear, Text.order_cons,
    Digits.order_writePadded_append hdMonth heMonth, Text.order_cons,
    Digits.order_writePadded_append hdDay heDay, CivilDate.compare_toDay hd.valid he.valid,
    compare_toNat hd.first he.first, Ordering.then_assoc, Ordering.then_assoc]

end Calendar

/-! ## §D A date against an instant -/

namespace Instant

/-- The day of an instant in universal time. -/
def utcDay (instant : Instant) : Int := instant.second / secondsPerDay

/-- The text of an instant: the date of its day in universal time, and the fields of the time. -/
theorem isoText_eq_fields (t : Instant) :
    t.isoText
      = Calendar.writeDate (CivilDate.ofDay t.utcDay)
        ++ 'T' :: (Digits.writePadded 2 ((t.readAt 0).second / 3600)
        ++ ':' :: (Digits.writePadded 2 ((t.readAt 0).second / 60 % 60)
        ++ ':' :: (Digits.writePadded 2 (t.readAt 0).secondOfMinute
        ++ '.' :: (Digits.writePadded 3 ((t.readAt 0).fractionNano / 1000000) ++ ['Z'])))) := by
  have hday : (t.readAt 0).day = t.utcDay := by
    rw [readAt, utcDay, Int.add_zero]
  rw [isoText, LocalTime.write, hday]
  simp only [Calendar.writeMillis, List.append_assoc, List.cons_append]

/-- **`order_writeDate_isoText`** — a date comes before an instant exactly if the instant's day in
universal time is not before it, and after the instant otherwise. -/
theorem order_writeDate_isoText {date : CivilDate} {instant : Instant}
    (hdate : Calendar.FourDigitDate date)
    (hinstant : Calendar.FourDigitDate (CivilDate.ofDay instant.utcDay)) :
    Text.order (Calendar.writeDate date) instant.isoText
      = if date.toDay ≤ instant.utcDay then .lt else .gt := by
  obtain ⟨rest, hrest⟩ : ∃ rest, instant.isoText
      = Calendar.writeDate (CivilDate.ofDay instant.utcDay) ++ 'T' :: rest :=
    ⟨_, instant.isoText_eq_fields⟩
  have hdates := Calendar.order_writeDate_append hdate hinstant [] ('T' :: rest)
  rw [List.append_nil, CivilDate.toDay_ofDay] at hdates
  rw [hrest, hdates]
  rcases lt_trichotomy date.toDay instant.utcDay with h | h | h
  · rw [compare_lt_iff_lt.mpr h, if_pos (le_of_lt h)]
    rfl
  · -- on the same day the text of the date ends first
    rw [compare_eq_iff_eq.mpr h, if_pos (le_of_eq h)]
    rfl
  · rw [compare_gt_iff_gt.mpr h, if_neg (not_le.mpr h)]
    rfl

end Instant

end DomainFilter
