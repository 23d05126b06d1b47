/-
# DomainFilter.Proofs.Verdict.Instants — comparing a field with a date

The condition `[f, "<=", "date.next.month"]` compares the text of a field with the text of the
instant that the descriptor means. If the field holds the text of an instant too, the comparison of
texts is one of instants.

* §A What a condition says that compares a text in a field with a date, and the array form of the
  filter that is only this condition.
* §B **`evaluate_instants`** — `<=`, `==` and `>=` say which instant is the earlier one, to the
  millisecond.

BOUNDARY: `<` and `>` compare numbers, and the text of an instant says none. Which instant a
descriptor means is found at one offset of local time for the whole context.
-/
import DomainFilter.Domain.Shape
import DomainFilter.Proofs.Calendar.InstantText
import DomainFilter.Proofs.Verdict.Ordering

namespace DomainFilter

/-! ## §A Conditions on dates -/

/-- The condition that a field compares in some way with the instant of a descriptor. -/
def dateCondition (field : String) (operator : Operator) (descriptor : String) : Condition :=
  ⟨.string field, operator, .string descriptor⟩

/-- Texts are compared as texts, also if they say numbers. -/
theorem Verdict.compare?_texts (s t : List Char) :
    compare? (.string (String.ofList s)) (.string (String.ofList t)) = some (Text.order s t) := by
  have htexts : compare? (.string (String.ofList s)) (.string (String.ofList t))
      = some (Text.order (String.ofList s).toList (String.ofList t).toList) := rfl
  rw [htexts, String.toList_ofList, String.toList_ofList]

/-- A text after `date.` is a descriptor. -/
theorem Symbol.ofText_date (rest : String) :
    Symbol.ofText ("date." ++ rest) = .date ("date." ++ rest) := by
  unfold Symbol.ofText Symbol.after?
  rw [String.toList_append]
  rfl

section

variable {ctx : Context} {field descriptor : String} {s : List Char} {r : Instant}

theorem Symbol.calendarError?_of_instant (h : Symbol.instant ctx descriptor = .ok r) :
    (Symbol.date descriptor).calendarError? ctx = none := by
  rw [Symbol.calendarError?, h]

/-- The text in the field is compared with the text of the instant. -/
theorem verdictIn_dateCondition
    (hfield : Fields.get? field ctx.object = some (.string (String.ofList s)))
    (hdate : Symbol.ofText descriptor = .date descriptor)
    (hinstant : Symbol.instant ctx descriptor = .ok r) (operator : Operator) :
    (dateCondition field operator descriptor).verdictIn ctx
      = Verdict.ofOperator operator (.string (String.ofList s))
          (.string (String.ofList r.isoText)) := by
  have hresolve : (Symbol.ofText descriptor).resolve ctx
      = .resolved (.string (String.ofList r.isoText)) := by
    rw [hdate, Symbol.resolve, Symbol.instantOrNow, hinstant]
  exact Condition.verdictIn_of_field hfield hresolve

end

namespace Domain

/-- The array form of the filter that is one condition on a date. -/
def dateFilter (field token descriptor : String) : Value :=
  .array [.string field, .string token, .string descriptor]

theorem ofValue_dateFilter (field descriptor : String) :
    ofValue (dateFilter field "<=" descriptor) = ⟨[⟨[dateCondition field .le descriptor]⟩]⟩
      ∧ ofValue (dateFilter field "==" descriptor) = ⟨[⟨[dateCondition field .eqEq descriptor]⟩]⟩
      ∧ ofValue (dateFilter field ">=" descriptor) = ⟨[⟨[dateCondition field .ge descriptor]⟩]⟩ :=
  ⟨rfl, rfl, rfl⟩

/-! ## §B Instants -/

/-- **`evaluate_instants`** — on a record whose field holds the text of the instant `t`, a condition
with a descriptor that means the instant `r` says whether `t` is at most, equal to or at least `r`,
both cut to milliseconds. -/
theorem evaluate_instants {ctx : Context} {field rest : String} {t r : Instant}
    (hfield : Fields.get? field ctx.object = some (.string (String.ofList t.isoText)))
    (hinstant : Symbol.instant ctx ("date." ++ rest) = .ok r) (ht : t.Plain) (hr : r.Plain) :
    (ofValue (dateFilter field "<=" ("date." ++ rest))).evaluate ctx
        = .ok (decide (t.truncated ≤ r.truncated))
      ∧ (ofValue (dateFilter field "==" ("date." ++ rest))).evaluate ctx
        = .ok (decide (t.truncated = r.truncated))
      ∧ (ofValue (dateFilter field ">=" ("date." ++ rest))).evaluate ctx
        = .ok (decide (t.truncated ≥ r.truncated)) := by
  have hdate := Symbol.ofText_date rest
  have herror : ∀ operator, (Symbol.ofValue (dateCondition field operator
      ("date." ++ rest)).value).calendarError? ctx = none := by
    intro operator
    show (Symbol.ofText ("date." ++ rest)).calendarError? ctx = none
    rw [hdate]
    exact Symbol.calendarError?_of_instant hinstant
  have hcompare : Verdict.compare? (.string (String.ofList t.isoText))
      (.string (String.ofList r.isoText)) = some (compare t.truncated r.truncated) := by
    rw [Verdict.compare?_texts, Instant.order_isoText ht hr]
  obtain ⟨hle, heq, hge⟩ := ofValue_dateFilter field ("date." ++ rest)
  rw [hle, heq, hge]
  refine ⟨evaluate_singleton (herror .le) ?_, evaluate_singleton (herror .eqEq) ?_,
    evaluate_singleton (herror .ge) ?_⟩
  · rw [verdictIn_dateCondition hfield hdate hinstant, Verdict.ofOperator_le_of_compare? hcompare,
      Option.some_inj, Bool.eq_iff_iff, decide_eq_true_iff, ← Ordering.ne_gt_iff_isLE]
    exact compare_le_iff_le
  · rw [verdictIn_dateCondition hfield hdate hinstant,
      Verdict.ofOperator_eqEq_of_compare? hcompare, Option.some_inj, Bool.eq_iff_iff,
      decide_eq_true_iff, Ordering.isEq_iff_eq_eq]
    exact compare_eq_iff_eq
  · rw [verdictIn_dateCondition hfield hdate hinstant, Verdict.ofOperator_ge_of_compare? hcompare,
      Option.some_inj, Bool.eq_iff_iff, decide_eq_true_iff, ← Ordering.ne_lt_iff_isGE]
    exact compare_ge_iff_ge

/-- Half a second into the leap second at the end of 2016. -/
def inLeapSecond : Instant :=
  ⟨Calendar.startOfYear 2017 * 86400 - 1, 1500000000, by decide, by decide, by decide⟩

/-- A thing sent then, two tenths of a second later. -/
def sentInLeapSecond : Context where
  object := [("sent", .string (String.ofList inLeapSecond.isoText))]
  now := ⟨Calendar.startOfYear 2017 * 86400 - 1, 1700000000, by decide, by decide, by decide⟩
  zone := ⟨7200, by decide, by decide⟩

/-- It was sent before now, and not now. -/
theorem evaluate_instants_in_leapSecond :
    Fields.get? "sent" sentInLeapSecond.object
        = some (.string (String.ofList inLeapSecond.isoText))
      ∧ Symbol.instant sentInLeapSecond ("date." ++ "now") = .ok sentInLeapSecond.now
      ∧ inLeapSecond.Plain ∧ sentInLeapSecond.now.Plain
      ∧ (ofValue (dateFilter "sent" "<=" ("date." ++ "now"))).evaluate sentInLeapSecond = .ok true
      ∧ (ofValue (dateFilter "sent" "==" ("date." ++ "now"))).evaluate sentInLeapSecond = .ok false
      ∧ (ofValue (dateFilter "sent" ">=" ("date." ++ "now"))).evaluate sentInLeapSecond
        = .ok false := by
  have hfield : Fields.get? "sent" sentInLeapSecond.object
      = some (.string (String.ofList inLeapSecond.isoText)) := rfl
  have hinstant : Symbol.instant sentInLeapSecond ("date." ++ "now") = .ok sentInLeapSecond.now := by
    decide +kernel
  have hsent : inLeapSecond.Plain := by decide
  have hnow : sentInLeapSecond.now.Plain := by decide
  obtain ⟨hle, heq, hge⟩ := evaluate_instants hfield hinstant hsent hnow
  have hbefore : inLeapSecond.truncated < sentInLeapSecond.now.truncated := by decide +kernel
  rw [decide_eq_true hbefore.le] at hle
  rw [decide_eq_false hbefore.ne] at heq
  rw [decide_eq_false hbefore.not_ge] at hge
  exact ⟨hfield, hinstant, hsent, hnow, hle, heq, hge⟩

end Domain

end DomainFilter
