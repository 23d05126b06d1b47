/-
# DomainFilter.Proofs.Verdict.Dependence — what a verdict depends on

A condition reads its context in two places: its operand may name a field of the object, and its
value may refer to one of the records or to the clock. Nothing else of the context reaches a verdict,
so contexts that have the same of what a domain names cannot be told apart by it.

* §A A changed domain in another context: evaluation compared condition by condition.
* §B What a symbol and a condition name, and that two contexts which have the same of it resolve the
  symbol and judge the condition alike. A missing field is as much of a context as one that is there.
* §C **`evaluate_eq_of_namesSame`** — for whole domains.
* §D **`evaluate_of_moreKnown`** — with more known of the user or the parent, references that led to
  nothing may lead somewhere. The conditions that said nothing then may say false, and no other
  condition changes, so a domain can stop to hold and cannot start to.

BOUNDARY: of a path in the object the first segment is what is named, with all that lies below it.
Dates name the clock and the zone, which has one offset for all times.
-/
import DomainFilter.Proofs.Verdict.Clauses

namespace DomainFilter

/-! ## §A A changed domain in another context -/

/-- The first error is decided by the errors of the conditions. -/
theorem Domain.calendarError?_eq (ctx : Context) (d : Domain) :
    d.calendarError? ctx
      = (d.conditions.map fun c => (Symbol.ofValue c.value).calendarError? ctx).findSome? id := by
  rw [List.findSome?_map]
  rfl

/-- **`evaluate_mapConditions_eq`** — if a change of the conditions and a change of the context make
up for each other at each condition, in its verdict and in the errors of its date, then they do in
the domain. -/
theorem Domain.evaluate_mapConditions_eq {change : Condition → Condition} {ctx other : Context}
    {d : Domain}
    (herror : ∀ c ∈ d.conditions, (Symbol.ofValue (change c).value).calendarError? other
      = (Symbol.ofValue c.value).calendarError? ctx)
    (hverdict : ∀ c ∈ d.conditions, (change c).verdictIn other = c.verdictIn ctx) :
    (d.mapConditions change).evaluate other = d.evaluate ctx := by
  have herrors : (d.mapConditions change).calendarError? other = d.calendarError? ctx := by
    rw [calendarError?_eq, calendarError?_eq, conditions_mapConditions, List.map_map]
    exact congrArg (List.findSome? id) (List.map_congr_left herror)
  have hholds : (d.mapConditions change).holds other = d.holds ctx := by
    rw [holds_eq_holdsBy, holds_eq_holdsBy, holdsBy_mapConditions]
    exact holdsBy_congr hverdict
  rw [evaluate, evaluate, unlessCalendarError, unlessCalendarError, herrors, hholds]

/-- The same for a domain that is not changed. -/
theorem Domain.evaluate_congr {ctx other : Context} {d : Domain}
    (herror : ∀ c ∈ d.conditions, (Symbol.ofValue c.value).calendarError? other
      = (Symbol.ofValue c.value).calendarError? ctx)
    (hverdict : ∀ c ∈ d.conditions, c.verdictIn other = c.verdictIn ctx) :
    d.evaluate other = d.evaluate ctx := by
  have hsame : d.mapConditions id = d := mapConditions_eq_self_iff.mpr fun _ _ => rfl
  calc d.evaluate other = (d.mapConditions id).evaluate other := by rw [hsame]
    _ = d.evaluate ctx := evaluate_mapConditions_eq herror hverdict

/-! ## §B What symbols and conditions name -/

/-- The first segment of a path: the field of the object where its walk starts. -/
def Path.root (path : String) : String := String.ofList (path.toList.takeWhile (· != '.'))

/-- A walk sees of the record only the field that its path starts with. -/
theorem Path.lookup?_congr {record other : Record} {path : String}
    (h : Fields.get? (root path) record = Fields.get? (root path) other) :
    lookup? record path = lookup? other path := by
  obtain ⟨rest, hrest⟩ := Text.segments_eq_cons '.' path.toList
  -- after the first step the walk is inside the field
  have hfirst : step? (.object record) (path.toList.takeWhile (· != '.'))
      = step? (.object other) (path.toList.takeWhile (· != '.')) := h
  rw [lookup?, lookup?, hrest, walk?, walk?, List.foldlM_cons, List.foldlM_cons, hfirst]

/-- Two contexts have the same of what a symbol names. -/
def Symbol.NamesSame (ctx other : Context) : Symbol → Prop
  | .literal => True
  | .object path =>
    Fields.get? (Path.root path) ctx.object = Fields.get? (Path.root path) other.object
  | .user key => Fields.get? key ctx.user = Fields.get? key other.user
  | .parent key => Fields.get? key ctx.parent = Fields.get? key other.parent
  | .date _ => ctx.now = other.now ∧ ctx.zone = other.zone
  | .env key => Fields.get? key ctx.env = Fields.get? key other.env

/-- Two contexts have the same of what a condition names: of the field that its operand may stand
for, and of what its value refers to. -/
def Condition.NamesSame (ctx other : Context) (c : Condition) : Prop :=
  (∀ field, c.operand = .string field →
      Fields.get? field ctx.object = Fields.get? field other.object)
    ∧ (Symbol.ofValue c.value).NamesSame ctx other

namespace Symbol

variable {ctx other : Context} {symbol : Symbol}

theorem instant_congr (hnow : ctx.now = other.now) (hzone : ctx.zone = other.zone)
    (descriptor : String) : instant ctx descriptor = instant other descriptor := by
  rw [instant, instant, hnow, hzone]

theorem instantOrNow_congr (hnow : ctx.now = other.now) (hzone : ctx.zone = other.zone)
    (descriptor : String) : instantOrNow ctx descriptor = instantOrNow other descriptor := by
  rw [instantOrNow, instantOrNow, instant_congr hnow hzone, hnow]

theorem calendarError?_of_clock (hnow : ctx.now = other.now) (hzone : ctx.zone = other.zone)
    (symbol : Symbol) : symbol.calendarError? ctx = symbol.calendarError? other := by
  cases symbol with
  | date descriptor => rw [calendarError?, calendarError?, instant_congr hnow hzone]
  | _ => rfl

/-- **`NamesSame.resolve_eq`** — a symbol resolves to what the context has of what it names. -/
theorem NamesSame.resolve_eq (h : symbol.NamesSame ctx other) :
    symbol.resolve ctx = symbol.resolve other := by
  cases symbol with
  | literal => rfl
  | object path => rw [resolve, resolve, objectValue?, objectValue?, Path.lookup?_congr h]
  | user key => exact congrArg Resolution.ofOption h
  | parent key =>
    rw [NamesSame] at h
    rw [resolve, resolve, parentValue?, parentValue?, h]
  | date descriptor => rw [resolve, resolve, instantOrNow_congr h.1 h.2]
  | env key =>
    rw [NamesSame] at h
    rw [resolve, resolve, h]

theorem NamesSame.calendarError?_eq (h : symbol.NamesSame ctx other) :
    symbol.calendarError? ctx = symbol.calendarError? other := by
  cases symbol with
  | date descriptor => exact calendarError?_of_clock h.1 h.2 (.date descriptor)
  | _ => rfl

end Symbol

theorem Record.operand_congr {record other : Record} {operand : Value}
    (h : ∀ field, operand = .string field → Fields.get? field record = Fields.get? field other) :
    Record.operand record operand = Record.operand other operand := by
  cases operand with
  | string field => rw [Record.operand, Record.operand, h field rfl]
  | _ => rfl

namespace Condition

variable {ctx other : Context} {c : Condition}

theorem resolved_congr
    (h : (Symbol.ofValue c.value).resolve ctx = (Symbol.ofValue c.value).resolve other) :
    c.resolved ctx = c.resolved other := by
  rw [resolved, resolved, h]

theorem verdictIn_eq_bind (ctx : Context) (c : Condition) :
    c.verdictIn ctx = (c.resolved ctx).value.bind fun value =>
      Verdict.ofOperator c.operator (Record.operand ctx.object c.operand) value := rfl

/-- A condition says of its resolved value what its operator does. -/
theorem verdictIn_of_value {found : Value} (h : (c.resolved ctx).value = some found) :
    c.verdictIn ctx
      = Verdict.ofOperator c.operator (Record.operand ctx.object c.operand) found := by
  rw [verdictIn_eq_bind, h, Option.bind_some]

/-- A condition on a field with a reference compares what the field counts as with what the
reference resolves to. -/
theorem verdictIn_of_field {field : String} {operator : Operator} {value stored target : Value}
    (hfield : Fields.get? field ctx.object = some stored)
    (hresolve : (Symbol.ofValue value).resolve ctx = .resolved target) :
    verdictIn ctx ⟨.string field, operator, value⟩
      = Verdict.ofOperator operator stored.collapseOperand target := by
  have hoperand : Record.operand ctx.object (.string field) = stored.collapseOperand := by
    rw [Record.operand, hfield]
  have hvalue : (resolved ctx ⟨.string field, operator, value⟩).value = some target := by
    rw [resolved, hresolve]
  rw [verdictIn_of_value hvalue, hoperand]

theorem NamesSame.verdictIn_eq (h : c.NamesSame ctx other) :
    c.verdictIn ctx = c.verdictIn other := by
  have hoperand : Record.operand ctx.object c.operand = Record.operand other.object c.operand :=
    Record.operand_congr h.1
  have hresolved : c.resolved ctx = c.resolved other := resolved_congr h.2.resolve_eq
  rw [verdictIn_eq_bind, verdictIn_eq_bind, hoperand, hresolved]

end Condition

/-! ## §C Domains -/

namespace Domain

/-- **`evaluate_eq_of_namesSame`** — two contexts that have the same of what each condition of a
domain names give it the same verdict, or the same error of a date. Only dates name the clock: the
contexts of a domain without them may have different ones. -/
theorem evaluate_eq_of_namesSame {ctx other : Context} {d : Domain}
    (h : ∀ c ∈ d.conditions, c.NamesSame ctx other) : d.evaluate ctx = d.evaluate other :=
  evaluate_congr (fun c hc => (h c hc).2.calendarError?_eq) fun c hc => (h c hc).verdictIn_eq

/-- Orders of the customer's own region for the user, or whatever is due this month. -/
def regionalOrders : Domain :=
  ⟨[⟨[⟨.string "region", .eq, .string "object.customer.region"⟩,
      ⟨.string "owner", .eq, .string "user.id"⟩,
      ⟨.bool true, .eq, .string "env.orders"⟩]⟩,
    ⟨[⟨.string "due", .le, .string "date.this.month.last"⟩]⟩]⟩

/-- An order of the north with a customer from there, for nobody. -/
def northernOrder : Context :=
  Records.atYearZero
    { object := [("customer", .object [("region", .string "north")]), ("region", .string "north")]
      env := [("orders", .bool true)] }

/-- The same with a note, a colleague, a parent and a further setting. -/
def annotatedOrder : Context :=
  { northernOrder with
    object := [("customer", .object [("region", .string "north")]), ("note", .null),
      ("region", .string "north")]
    user := [("name", .string "guest")]
    parent := [("id", .string "north")]
    env := [("debug", .bool false), ("orders", .bool true)] }

/-- Nobody's orders, at another time and in another zone. -/
def laterOrder : Context :=
  { annotatedOrder with now := ⟨86400, 1, by decide, by decide, by decide⟩,
                        zone := ⟨3600, by decide, by decide⟩ }

/-- The customer's region alone. -/
def sameRegion : Domain :=
  ⟨[⟨[⟨.string "region", .eq, .string "object.customer.region"⟩]⟩]⟩

/-- Fields that no condition names make no difference, and without a date neither does the clock. -/
theorem evaluate_annotatedOrder_eq :
    (∀ c ∈ regionalOrders.conditions, c.NamesSame northernOrder annotatedOrder)
      ∧ regionalOrders.evaluate northernOrder = regionalOrders.evaluate annotatedOrder
      ∧ (∀ c ∈ sameRegion.conditions, c.NamesSame northernOrder laterOrder)
      ∧ northernOrder.now ≠ laterOrder.now ∧ northernOrder.zone ≠ laterOrder.zone
      ∧ sameRegion.evaluate northernOrder = .ok true
      ∧ sameRegion.evaluate laterOrder = .ok true := by
  have horders : ∀ c ∈ regionalOrders.conditions, c.NamesSame northernOrder annotatedOrder := by
    intro c hc
    have hcases : c = ⟨.string "region", .eq, .string "object.customer.region"⟩
        ∨ c = ⟨.string "owner", .eq, .string "user.id"⟩
        ∨ c = ⟨.bool true, .eq, .string "env.orders"⟩
        ∨ c = ⟨.string "due", .le, .string "date.this.month.last"⟩ := by
      simpa [regionalOrders, conditions] using hc
    rcases hcases with rfl | rfl | rfl | rfl
    · exact ⟨fun field hfield => by cases hfield; rfl, rfl⟩
    · exact ⟨fun field hfield => by cases hfield; rfl, rfl⟩
    · exact ⟨fun field hfield => (by cases hfield), rfl⟩
    · exact ⟨fun field hfield => by cases hfield; rfl, rfl, rfl⟩
  have hregion : ∀ c ∈ sameRegion.conditions, c.NamesSame northernOrder laterOrder := by
    intro c hc
    rw [List.mem_singleton.mp hc]
    exact ⟨fun field hfield => by cases hfield; rfl, rfl⟩
  have hnorth : sameRegion.evaluate northernOrder = .ok true := rfl
  exact ⟨horders, evaluate_eq_of_namesSame horders, hregion, by decide, by decide, hnorth,
    (evaluate_eq_of_namesSame hregion).symm.trans hnorth⟩

end Domain

/-! ## §D More known of the user and the parent -/

/-- Every field of one record is in the other, with the same value. -/
def Fields.Within {α : Type} (fields more : Fields α) : Prop :=
  ∀ key value, get? key fields = some value → get? key more = some value

/-- One context knows all that the other does, and may know more of the user and of the parent. -/
structure Context.KnowsLess (ctx more : Context) : Prop where
  object : ctx.object = more.object
  env : ctx.env = more.env
  now : ctx.now = more.now
  zone : ctx.zone = more.zone
  user : Fields.Within ctx.user more.user
  parent : Fields.Within ctx.parent more.parent

namespace Context.KnowsLess

variable {ctx more : Context}

/-- What is not found with less known may be found with more; what is found stays. -/
theorem get?_eq {α : Type} {fields other : Fields α} (h : fields.Within other) (key : String) :
    fields.get? key = none ∨ fields.get? key = other.get? key := by
  cases hfound : fields.get? key with
  | none => exact .inl rfl
  | some value => exact .inr (h key value hfound).symm

/-- A symbol resolves alike, unless with less known it refers to nothing. -/
theorem resolve_eq (h : ctx.KnowsLess more) (symbol : Symbol) :
    symbol.resolve ctx = .unresolved ∨ symbol.resolve ctx = symbol.resolve more := by
  cases symbol with
  | literal => exact .inr rfl
  | object path => exact .inr (Symbol.NamesSame.resolve_eq (by rw [Symbol.NamesSame, h.object]))
  -- only these two can lead to nothing in the one context and to something in the other
  | user key =>
    rcases get?_eq h.user key with hnone | hsame
    · exact .inl (congrArg Resolution.ofOption hnone)
    · exact .inr (Symbol.NamesSame.resolve_eq hsame)
  | parent key =>
    rcases get?_eq h.parent key with hnone | hsame
    · left
      rw [Symbol.resolve, Symbol.parentValue?, hnone]
      rfl
    · exact .inr (Symbol.NamesSame.resolve_eq hsame)
  | date descriptor => exact .inr (Symbol.NamesSame.resolve_eq ⟨h.now, h.zone⟩)
  | env key => exact .inr (Symbol.NamesSame.resolve_eq (by rw [Symbol.NamesSame, h.env]))

/-- A condition that says false with less known says so with more: its reference was found. -/
theorem verdictIn_eq_false (h : ctx.KnowsLess more) {c : Condition}
    (hfalse : c.verdictIn ctx = some false) : c.verdictIn more = some false := by
  rcases h.resolve_eq (Symbol.ofValue c.value) with hnone | hsame
  · -- a reference to nothing leaves the condition without a verdict
    have hsilent : c.verdictIn ctx = none := by
      rw [Condition.verdictIn, Condition.resolved, hnone]
      rfl
    rw [hsilent] at hfalse
    cases hfalse
  · rw [Condition.verdictIn, ← Condition.resolved_congr hsame, ← h.object]
    exact hfalse

end Context.KnowsLess

namespace Domain

/-- **`evaluate_of_moreKnown`** — a domain that holds with more known of the user and of the parent
holds with less. Its dates fail with the one exactly if they do with the other. -/
theorem evaluate_of_moreKnown {ctx more : Context} (h : ctx.KnowsLess more) (d : Domain) :
    (d.evaluate more = .ok true → d.evaluate ctx = .ok true)
      ∧ ∀ e, d.evaluate more = .error e ↔ d.evaluate ctx = .error e := by
  have hdates : d.calendarError? ctx = d.calendarError? more := by
    simp only [calendarError?, Symbol.calendarError?_of_clock h.now h.zone]
  constructor
  · rw [evaluate_eq_ok_iff, evaluate_eq_ok_iff, ← calendarError?_eq_none_iff,
      ← calendarError?_eq_none_iff, hdates]
    rintro ⟨hnone, hholds⟩
    exact ⟨hnone, holdsBy_mono (fun c _ => h.verdictIn_eq_false) hholds⟩
  · intro e
    rw [evaluate, evaluate, unlessCalendarError, unlessCalendarError, hdates]
    cases d.calendarError? more <;> simp

/-- Of the user's own team, and not of the kind that the parent has. -/
def teamwork : Domain :=
  ⟨[⟨[⟨.string "team", .isIn, .string "user.teams"⟩,
      ⟨.string "kind", .ne, .string "parent.kind"⟩]⟩]⟩

/-- A task, for a user of its team. -/
def task : Context :=
  Records.atYearZero
    { object := [("kind", .string "task"), ("team", .number .zero)]
      user := [("teams", .array [.number .zero])] }

/-- The same task, for a user with a name, under a parent of another kind. -/
def adoptedTask : Context :=
  { task with
    user := [("name", .string "guest"), ("teams", .array [.number .zero])]
    parent := [("kind", .string "bug")] }

/-- The same task, with a parent of its kind. -/
def subtask : Context := { adoptedTask with parent := [("kind", .string "task")] }

/-- What holds with the parent's kind known holds without; known to be the kind of the task, it can
make it fail. -/
theorem evaluate_task :
    task.KnowsLess adoptedTask ∧ teamwork.evaluate adoptedTask = .ok true
      ∧ teamwork.evaluate task = .ok true ∧ teamwork.evaluate subtask = .ok false := by
  have hless : task.KnowsLess adoptedTask := by
    refine ⟨rfl, rfl, rfl, rfl, ?_, ?_⟩
    · intro key value hfound
      by_cases hkey : "teams" = key
      · subst hkey
        exact hfound
      · have hnone : Fields.get? key task.user = none := if_neg hkey
        rw [hnone] at hfound
        cases hfound
    · intro key value hfound
      cases hfound
  have hadopted : teamwork.evaluate adoptedTask = .ok true := rfl
  exact ⟨hless, hadopted, (evaluate_of_moreKnown hless teamwork).1 hadopted, rfl⟩

end Domain

end DomainFilter
