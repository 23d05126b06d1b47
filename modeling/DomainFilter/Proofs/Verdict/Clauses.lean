/-
# DomainFilter.Proofs.Verdict.Clauses — a domain as a disjunction of conjunctions

Testing a domain and evaluating it differ only in what they let one condition say. Both are
`Domain.holdsBy` of a *saying* of conditions, and what clauses and domains make of their conditions
is proved once for every saying.

* §A `Clause.holdsBy`, `Domain.holdsBy`, and `Domain.test` and `Domain.holds` as two of its cases.
* §B What they mean: no condition says false; no clause at all, or one that holds.
* §C Two sayings of one domain: a condition that says false less often makes more hold.
* §D `Domain.evaluate`, which has a result exactly if every date of the domain is in the calendar.
* §E A clock to evaluate examples by.

BOUNDARY: nothing here asks what an operator says of its two sides; a saying is any function.
-/
import DomainFilter.Domain.Evaluation
import DomainFilter.Proofs.Domain.Conditions

namespace DomainFilter

/-! ## §A Sayings -/

/-- Whether a clause holds when its conditions say the given. -/
def Clause.holdsBy (saying : Condition → Option Bool) (clause : Clause) : Bool :=
  Verdict.ofConditions (clause.conditions.map saying)

/-- Whether a domain holds when its conditions say the given. -/
def Domain.holdsBy (saying : Condition → Option Bool) (d : Domain) : Bool :=
  Verdict.ofClauses (d.clauses.map (·.holdsBy saying))

/-- What a condition says in a context: its value resolved, its operand looked up in the object. -/
def Condition.verdictIn (ctx : Context) (c : Condition) : Option Bool :=
  (c.resolved ctx).verdict (Record.operand ctx.object)

theorem Domain.test_eq_holdsBy (d : Domain) : d.test = d.holdsBy Condition.verdict := rfl

/-- A resolved domain lets each condition say what it says with its value resolved. -/
theorem Domain.holdsWith_resolved (ctx : Context) (operand : Value → Value) (d : Domain) :
    (d.resolved ctx).holdsWith operand = d.holdsBy fun c => (c.resolved ctx).verdict operand := by
  unfold ResolvedDomain.holdsWith resolved holdsBy
  rw [List.map_map]
  congr 1
  apply List.map_congr_left
  intro clause _
  simp only [Function.comp, Clause.holdsBy, List.map_map]
  rfl

theorem Domain.holds_eq_holdsBy (ctx : Context) (d : Domain) :
    d.holds ctx = d.holdsBy (Condition.verdictIn ctx) :=
  d.holdsWith_resolved ctx (Record.operand ctx.object)

/-! ## §B What clauses and domains make of their conditions -/

theorem Clause.holdsBy_iff {saying : Condition → Option Bool} {clause : Clause} :
    clause.holdsBy saying = true ↔ ∀ c ∈ clause.conditions, saying c ≠ some false := by
  simp [holdsBy, Verdict.ofConditions]

theorem Domain.holdsBy_iff {saying : Condition → Option Bool} {d : Domain} :
    d.holdsBy saying = true ↔
      d.clauses = [] ∨ ∃ clause ∈ d.clauses, clause.holdsBy saying = true := by
  simp [holdsBy, Verdict.ofClauses]

theorem Domain.holdsBy_of_mem {saying : Condition → Option Bool} {d : Domain} {clause : Clause}
    (hmem : clause ∈ d.clauses) (h : clause.holdsBy saying = true) : d.holdsBy saying = true :=
  holdsBy_iff.mpr (.inr ⟨clause, hmem, h⟩)

theorem Domain.holdsBy_singleton (saying : Condition → Option Bool) (clause : Clause) :
    Domain.holdsBy saying ⟨[clause]⟩ = clause.holdsBy saying := by
  simp [holdsBy, Verdict.ofClauses]

/-- A condition that says nothing is as good as true. -/
theorem Domain.holdsBy_single (saying : Condition → Option Bool) (c : Condition) :
    (single c).holdsBy saying = (saying c).getD true := by
  rw [single, holdsBy_singleton, Clause.holdsBy, List.map_singleton]
  rcases saying c with - | - | - <;> rfl

/-- The conditions of two clauses in one clause: both have to hold. -/
theorem Clause.holdsBy_append (saying : Condition → Option Bool) (xs ys : List Condition) :
    Clause.holdsBy saying ⟨xs ++ ys⟩
      = (Clause.holdsBy saying ⟨xs⟩ && Clause.holdsBy saying ⟨ys⟩) := by
  simp only [holdsBy, Verdict.ofConditions, List.map_append, List.all_append]

theorem Clause.holdsBy_mapConditions (saying : Condition → Option Bool)
    (change : Condition → Condition) (clause : Clause) :
    (clause.mapConditions change).holdsBy saying = clause.holdsBy (saying ∘ change) := by
  rw [holdsBy, mapConditions, List.map_map]
  rfl

/-- A changed domain holds when the conditions say what the changed ones do. -/
theorem Domain.holdsBy_mapConditions (saying : Condition → Option Bool)
    (change : Condition → Condition) (d : Domain) :
    (d.mapConditions change).holdsBy saying = d.holdsBy (saying ∘ change) := by
  simp only [holdsBy, mapConditions, List.map_map, Function.comp_def,
    Clause.holdsBy_mapConditions]

/-! ## §C Two sayings of one domain -/

theorem Clause.holdsBy_mono {saying saying' : Condition → Option Bool} {clause : Clause}
    (h : ∀ c ∈ clause.conditions, saying' c = some false → saying c = some false)
    (holds : clause.holdsBy saying = true) : clause.holdsBy saying' = true := by
  rw [holdsBy_iff] at holds ⊢
  intro c hc hfalse
  exact holds c hc (h c hc hfalse)

/-- **Fewer falses, more truth**: a saying that is false only where another is false makes every
domain hold that the other makes hold. -/
theorem Domain.holdsBy_mono {saying saying' : Condition → Option Bool} {d : Domain}
    (h : ∀ c ∈ d.conditions, saying' c = some false → saying c = some false)
    (holds : d.holdsBy saying = true) : d.holdsBy saying' = true := by
  rw [holdsBy_iff] at holds ⊢
  rcases holds with hnil | ⟨clause, hmem, hclause⟩
  · exact .inl hnil
  · refine .inr ⟨clause, hmem, Clause.holdsBy_mono ?_ hclause⟩
    intro c hc
    exact h c (mem_conditions_of_mem hmem hc)

theorem Domain.holdsBy_congr {saying saying' : Condition → Option Bool} {d : Domain}
    (h : ∀ c ∈ d.conditions, saying c = saying' c) : d.holdsBy saying = d.holdsBy saying' := by
  -- the same falses are fewer falses both ways
  rw [Bool.eq_iff_iff]
  constructor
  · exact holdsBy_mono fun c hc hfalse => (h c hc).trans hfalse
  · exact holdsBy_mono fun c hc hfalse => (h c hc).symm.trans hfalse

/-! ## §D Evaluation and the calendar -/

/-- No date that the domain refers to leaves the calendar on the way. -/
def Domain.DatesInCalendar (ctx : Context) (d : Domain) : Prop :=
  ∀ c ∈ d.conditions, (Symbol.ofValue c.value).calendarError? ctx = none

namespace Domain

theorem calendarError?_eq_none_iff {ctx : Context} {d : Domain} :
    d.calendarError? ctx = none ↔ d.DatesInCalendar ctx :=
  List.findSome?_eq_none_iff

theorem exists_calendarError {ctx : Context} {d : Domain} (h : ¬ d.DatesInCalendar ctx) :
    ∃ e, d.calendarError? ctx = some e := by
  rw [← calendarError?_eq_none_iff] at h
  exact Option.ne_none_iff_exists'.mp h

theorem unlessCalendarError_of_calendarError? {α : Type} {ctx : Context} {d : Domain}
    {e : CalendarError} (h : d.calendarError? ctx = some e) (result : α) :
    d.unlessCalendarError ctx result = .error e := by
  rw [unlessCalendarError, h]

theorem unlessCalendarError_of_datesInCalendar {α : Type} {ctx : Context} {d : Domain}
    (h : d.DatesInCalendar ctx) (result : α) : d.unlessCalendarError ctx result = .ok result := by
  rw [unlessCalendarError, calendarError?_eq_none_iff.mpr h]

theorem map_unlessCalendarError {α β : Type} (f : α → β) (ctx : Context) (d : Domain)
    (result : α) :
    (d.unlessCalendarError ctx result).map f = d.unlessCalendarError ctx (f result) := by
  unfold unlessCalendarError
  cases d.calendarError? ctx <;> rfl

theorem evaluate_of_calendarError? {ctx : Context} {d : Domain} {e : CalendarError}
    (h : d.calendarError? ctx = some e) : d.evaluate ctx = .error e :=
  unlessCalendarError_of_calendarError? h _

theorem evaluate_of_datesInCalendar {ctx : Context} {d : Domain} (h : d.DatesInCalendar ctx) :
    d.evaluate ctx = .ok (d.holdsBy (Condition.verdictIn ctx)) := by
  rw [← holds_eq_holdsBy]
  exact unlessCalendarError_of_datesInCalendar h _

/-- **`evaluate_eq_ok_iff`** — evaluation has a result exactly if the dates are in the calendar, and
then it is the verdict of the domain's clauses. -/
theorem evaluate_eq_ok_iff {ctx : Context} {d : Domain} {verdict : Bool} :
    d.evaluate ctx = .ok verdict ↔
      d.DatesInCalendar ctx ∧ d.holdsBy (Condition.verdictIn ctx) = verdict := by
  rw [← calendarError?_eq_none_iff, ← holds_eq_holdsBy]
  unfold evaluate unlessCalendarError
  cases d.calendarError? ctx <;> simp

/-- Of a domain whose dates are in the calendar each clause can be evaluated by itself. -/
theorem evaluate_clause_eq_ok_iff {ctx : Context} {d : Domain} {clause : Clause} {verdict : Bool}
    (hdates : d.DatesInCalendar ctx) (hclause : clause ∈ d.clauses) :
    (Domain.mk [clause]).evaluate ctx = .ok verdict ↔
      clause.holdsBy (Condition.verdictIn ctx) = verdict := by
  have hclauseDates : (Domain.mk [clause]).DatesInCalendar ctx := by
    intro c hc
    obtain ⟨_, hmem, hc⟩ := mem_conditions.mp hc
    rw [List.mem_singleton.mp hmem] at hc
    exact hdates c (mem_conditions_of_mem hclause hc)
  rw [evaluate_of_datesInCalendar hclauseDates, holdsBy_singleton, Except.ok.injEq]

theorem datesInCalendar_single {ctx : Context} {c : Condition} :
    (single c).DatesInCalendar ctx ↔ (Symbol.ofValue c.value).calendarError? ctx = none := by
  rw [DatesInCalendar, conditions_single, List.forall_mem_singleton]

theorem evaluate_single {ctx : Context} {c : Condition}
    (hdate : (Symbol.ofValue c.value).calendarError? ctx = none) :
    (single c).evaluate ctx = .ok ((c.verdictIn ctx).getD true) := by
  rw [evaluate_of_datesInCalendar (datesInCalendar_single.mpr hdate), holdsBy_single]

/-- A domain that is one condition says what the condition says. -/
theorem evaluate_singleton {ctx : Context} {c : Condition} {verdict : Bool}
    (hdate : (Symbol.ofValue c.value).calendarError? ctx = none)
    (hverdict : c.verdictIn ctx = some verdict) :
    (Domain.mk [⟨[c]⟩]).evaluate ctx = .ok verdict := by
  have hsingle := evaluate_single hdate
  rwa [hverdict] at hsingle

theorem toOption_evaluate_eq_some_iff {ctx : Context} {d : Domain} {verdict : Bool} :
    (d.evaluate ctx).toOption = some verdict ↔
      d.DatesInCalendar ctx ∧ d.holdsBy (Condition.verdictIn ctx) = verdict := by
  rw [← evaluate_eq_ok_iff]
  cases d.evaluate ctx <;> simp [Except.toOption]

/-- A change that keeps what the values refer to keeps the first error in their dates. -/
theorem calendarError?_mapConditions {change : Condition → Condition} {d : Domain}
    (h : ∀ c ∈ d.conditions, Symbol.ofValue (change c).value = Symbol.ofValue c.value)
    (ctx : Context) : (d.mapConditions change).calendarError? ctx = d.calendarError? ctx := by
  -- the error is a function of the symbols alone
  have hsymbols : (d.conditions.map change).map (fun c => Symbol.ofValue c.value)
      = d.conditions.map fun c => Symbol.ofValue c.value := by
    rw [List.map_map]
    exact List.map_congr_left h
  have herrors : ∀ conditions : List Condition,
      (conditions.findSome? fun c => (Symbol.ofValue c.value).calendarError? ctx)
        = (conditions.map fun c => Symbol.ofValue c.value).findSome? (·.calendarError? ctx) := by
    intro conditions
    rw [List.findSome?_map]
    rfl
  rw [calendarError?, calendarError?, conditions_mapConditions, herrors, herrors, hsymbols]

theorem datesInCalendar_mapConditions {ctx : Context} {change : Condition → Condition} {d : Domain}
    (h : ∀ c ∈ d.conditions, Symbol.ofValue (change c).value = Symbol.ofValue c.value) :
    (d.mapConditions change).DatesInCalendar ctx ↔ d.DatesInCalendar ctx := by
  rw [← calendarError?_eq_none_iff, ← calendarError?_eq_none_iff, calendarError?_mapConditions h]

@[simp]
theorem evaluate_empty (ctx : Context) : empty.evaluate ctx = .ok true := rfl

end Domain

/-! ## §E A clock for examples -/

/-- Records at the start of the year 0 in universal time. -/
def Records.atYearZero (records : Records) : Context :=
  { records with
    now := ⟨0, 0, by decide, by decide, by decide⟩
    zone := ⟨0, by decide, by decide⟩ }

end DomainFilter
