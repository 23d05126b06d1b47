/-
# DomainFilter.Proofs.Verdict.ManyRecords — one domain for many records

To filter a list of records a domain can be evaluated in the context of each of them, or it can be
resolved once and the resolved domain asked of each. Resolving reads the object through `object.`
references only, and operands are looked up when a record is asked, so without such references the
two ways agree record by record.

* §A Contexts that differ in their object. Symbols that are no path in the object, conditions and
  domains with no other symbols are resolved alike in them.
* §B **`evaluate_each_eq_resolved_once`** — for whole lists of records.

BOUNDARY: with an `object.` reference the resolved domain keeps what the path led to in the object
of the context that it was resolved in.
-/
import DomainFilter.Proofs.Verdict.Dependence

namespace DomainFilter

/-! ## §A Another object -/

/-- The context with another record under test. -/
def Context.withObject (record : Record) (ctx : Context) : Context := { ctx with object := record }

/-- Whether a symbol is a path in the object. -/
def Symbol.readsObject : Symbol → Bool
  | .object _ => true
  | _ => false

/-- No value of the domain is an `object.` reference. -/
def Domain.ReadsNoObject (d : Domain) : Prop :=
  ∀ c ∈ d.conditions, (Symbol.ofValue c.value).readsObject = false

variable {ctx : Context} {record : Record}

/-- What such a symbol names, contexts with different objects have the same of. -/
theorem Symbol.namesSame_withObject {symbol : Symbol} (h : symbol.readsObject = false) :
    symbol.NamesSame (ctx.withObject record) ctx := by
  cases symbol with
  | object path => cases h
  | literal => trivial
  | date descriptor => exact ⟨rfl, rfl⟩
  | _ => exact rfl

theorem Condition.resolved_withObject {c : Condition}
    (h : (Symbol.ofValue c.value).readsObject = false) :
    c.resolved (ctx.withObject record) = c.resolved ctx := by
  apply resolved_congr
  exact (Symbol.namesSame_withObject h).resolve_eq

namespace Domain

variable {d : Domain}

theorem ReadsNoObject.resolved_withObject (h : d.ReadsNoObject) :
    d.resolved (ctx.withObject record) = d.resolved ctx := by
  unfold resolved
  congr 1
  apply List.map_congr_left
  intro clause hclause
  apply List.map_congr_left
  intro c hc
  exact Condition.resolved_withObject (h c (mem_conditions_of_mem hclause hc))

/-- The dates of a domain are those of the clock, whatever the object. -/
theorem calendarError?_withObject (record : Record) (ctx : Context) (d : Domain) :
    d.calendarError? (ctx.withObject record) = d.calendarError? ctx := by
  have hclock : ∀ symbol : Symbol,
      symbol.calendarError? (ctx.withObject record) = symbol.calendarError? ctx :=
    Symbol.calendarError?_of_clock rfl rfl
  simp only [calendarError?, hclock]

theorem ReadsNoObject.resolve_withObject (h : d.ReadsNoObject) :
    d.resolve (ctx.withObject record) = d.resolve ctx := by
  rw [resolve, resolve, unlessCalendarError, unlessCalendarError, calendarError?_withObject,
    h.resolved_withObject]

/-- Evaluating is resolving and then asking the resolved domain of the object. -/
theorem evaluate_eq_map_resolve (ctx : Context) (d : Domain) :
    d.evaluate ctx = (d.resolve ctx).map fun resolved => resolved.evaluate ctx.object := by
  rw [resolve, map_unlessCalendarError]
  rfl

theorem ReadsNoObject.evaluate_withObject (h : d.ReadsNoObject) (record : Record) (ctx : Context) :
    d.evaluate (ctx.withObject record)
      = (d.resolve ctx).map fun resolved => resolved.evaluate record := by
  rw [evaluate_eq_map_resolve, h.resolve_withObject]
  rfl

/-! ## §B Lists of records -/

/-- **`evaluate_each_eq_resolved_once`** — of a domain without `object.` references, evaluating it in
the context of each record gives what the domain, resolved once, says of that record, also where a
date leaves the calendar. Where none does there are a resolved domain and a verdict for every
record. -/
theorem evaluate_each_eq_resolved_once (h : d.ReadsNoObject) (ctx : Context)
    (records : List Record) :
    (records.map fun record => d.evaluate (ctx.withObject record))
        = (records.map fun record => (d.resolve ctx).map fun resolved => resolved.evaluate record)
      ∧ (d.DatesInCalendar ctx →
        ∃ resolved, d.resolve ctx = .ok resolved
          ∧ (records.mapM fun record => d.evaluate (ctx.withObject record))
            = .ok (records.map fun record => resolved.evaluate record)) := by
  constructor
  · apply List.map_congr_left
    intro record _
    exact h.evaluate_withObject record ctx
  · intro hdates
    have hresolve : d.resolve ctx = .ok (d.resolved ctx) :=
      unlessCalendarError_of_datesInCalendar hdates _
    refine ⟨d.resolved ctx, hresolve, ?_⟩
    -- each step of the pass over the records has a result
    have hpure : (fun record => d.evaluate (ctx.withObject record))
        = fun record => pure ((d.resolved ctx).evaluate record) := by
      funext record
      rw [h.evaluate_withObject, hresolve]
      rfl
    rw [hpure, List.mapM_pure]
    rfl

/-- What the user owns and is not archived, and whatever is due by the end of this month. -/
def ownOrDue : Domain :=
  ⟨[⟨[⟨.string "owner", .eq, .string "user.id"⟩, ⟨.string "archived", .is, .bool false⟩]⟩,
    ⟨[⟨.string "due", .le, .string "date.this.month.last"⟩]⟩]⟩

/-- A user with some object at hand. -/
def owner : Context :=
  Records.atYearZero { object := [("owner", .string "nobody")], user := [("id", .string "me")] }

/-- A record of the user's, an archived one, and one of someone else's that is due. -/
def threeRecords : List Record :=
  [[("archived", .bool false), ("owner", .string "me")],
    [("archived", .bool true), ("owner", .string "me")],
    [("due", .string "0000-01-20"), ("owner", .string "you")]]

/-- The object of the context is none of the three records, and makes no difference to them. -/
theorem evaluate_each_of_threeRecords :
    ownOrDue.ReadsNoObject ∧ ownOrDue.DatesInCalendar owner
      ∧ (threeRecords.map fun record => ownOrDue.evaluate (owner.withObject record))
        = (threeRecords.map fun record =>
            (ownOrDue.resolve owner).map fun resolved => resolved.evaluate record)
      ∧ (threeRecords.mapM fun record => ownOrDue.evaluate (owner.withObject record))
        = .ok [true, false, true] := by
  have hreads : ownOrDue.ReadsNoObject := by
    intro c hc
    have hcases : c = ⟨.string "owner", .eq, .string "user.id"⟩
        ∨ c = ⟨.string "archived", .is, .bool false⟩
        ∨ c = ⟨.string "due", .le, .string "date.this.month.last"⟩ := by
      simpa [ownOrDue, conditions] using hc
    rcases hcases with rfl | rfl | rfl <;> rfl
  have hdates : ownOrDue.DatesInCalendar owner := calendarError?_eq_none_iff.mp rfl
  obtain ⟨heach, honce⟩ := evaluate_each_eq_resolved_once hreads owner threeRecords
  obtain ⟨resolved, hresolve, hverdicts⟩ := honce hdates
  have hresolved : ownOrDue.resolved owner = resolved :=
    Except.ok.inj ((unlessCalendarError_of_datesInCalendar hdates _).symm.trans hresolve)
  have hthree : (threeRecords.map fun record => (ownOrDue.resolved owner).evaluate record)
      = [true, false, true] := by decide +kernel
  refine ⟨hreads, hdates, heach, ?_⟩
  rw [hverdicts, ← hresolved, hthree]

end Domain

end DomainFilter
