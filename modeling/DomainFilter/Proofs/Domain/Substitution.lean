/-
# DomainFilter.Proofs.Domain.Substitution — two ways to replace references

References are replaced in the domain itself (`Domain.parse`), where one to nothing stays as it is
written, or in a resolved copy (`Domain.resolve`), where its place stays empty. Beside that the two
do the same at every place. A domain whose references were replaced is a domain again, so its values
are taken for references once more: nothing changes then unless a reference led to another one.

* §A What a date resolves to is a literal.
* §B One condition: what substituting can do to it, and when a second time does nothing more.
* §C Domains: operands and operators stay in their places, and dates are found in the calendar again.
* §D **`parse_agrees_with_resolve`** — the two ways compared, and what a second replacement changes.
* §E **`toValue_parse_merge`** — references may be replaced before a merge or after it.

BOUNDARY: dates are found at one offset of local time for the whole context.
-/
import DomainFilter.Proofs.Domain.Built
import DomainFilter.Proofs.Domain.Conjunction
import DomainFilter.Proofs.Number.Digits
import DomainFilter.Proofs.Verdict.Null

namespace DomainFilter

/-! ## §A Dates -/

/-- A year starts with a digit or with a sign. -/
theorem Calendar.writeYear_eq_cons (year : Int) :
    ∃ c rest, writeYear year = c :: rest ∧ (c.isDigit = true ∨ c = '-' ∨ c = '+') := by
  unfold writeYear
  split
  · obtain ⟨c, rest, hdigits⟩ :=
      List.exists_cons_of_ne_nil (Digits.writePadded_ne_nil 4 year.toNat)
    have hmem : c ∈ Digits.writePadded 4 year.toNat := by
      rw [hdigits]
      exact List.mem_cons_self
    exact ⟨c, rest, hdigits, .inl (Digits.isDigit_of_mem_writePadded hmem)⟩
  · split
    · exact ⟨'-', _, rfl, .inr (.inl rfl)⟩
    · exact ⟨'+', _, rfl, .inr (.inr rfl)⟩

namespace Symbol

/-- Every reference starts with a letter. -/
theorem ofText_of_head {c : Char} (h : c.isDigit = true ∨ c = '-' ∨ c = '+') (rest : List Char) :
    ofText (String.ofList (c :: rest)) = .literal := by
  have hne : ∀ letter : Char, letter.isDigit = false → letter ≠ '-' → letter ≠ '+' →
      letter ≠ c := by
    rintro letter hdigit hminus hplus rfl
    rcases h with h | h | h
    · rw [hdigit] at h
      cases h
    · exact hminus h
    · exact hplus h
  have ho : 'o' ≠ c := hne 'o' rfl (by decide) (by decide)
  have hu : 'u' ≠ c := hne 'u' rfl (by decide) (by decide)
  have hp : 'p' ≠ c := hne 'p' rfl (by decide) (by decide)
  have hd : 'd' ≠ c := hne 'd' rfl (by decide) (by decide)
  have he : 'e' ≠ c := hne 'e' rfl (by decide) (by decide)
  simp [ofText, after?, List.isPrefixOf?, ho, hu, hp, hd, he]

theorem ofText_isoText (instant : Instant) :
    ofText (String.ofList instant.isoText) = .literal := by
  obtain ⟨c, rest, hyear, hhead⟩ :=
    Calendar.writeYear_eq_cons (CivilDate.ofDay (instant.readAt 0).day).year
  simp only [Instant.isoText, LocalTime.write, Calendar.writeDate, hyear, List.cons_append]
  exact ofText_of_head hhead _

end Symbol

/-! ## §B One condition -/

namespace Condition

/-- If the value refers to something, then to nothing that is a reference itself. -/
def Settles (ctx : Context) (c : Condition) : Prop :=
  ∀ value, (Symbol.ofValue c.value).resolve ctx = .resolved value →
    Symbol.ofValue value = .literal

variable {ctx : Context} {c : Condition}

/-- Substituting puts what resolving finds in the place of the value, and keeps the value where
resolving finds nothing. -/
theorem substitute_eq (ctx : Context) (c : Condition) :
    c.substitute ctx = { c with value := (c.resolved ctx).value.getD c.value } := by
  unfold substitute resolved
  cases (Symbol.ofValue c.value).resolve ctx <;> rfl

theorem substitute_cases (ctx : Context) (c : Condition) :
    c.substitute ctx = c ∨
      ∃ value, (Symbol.ofValue c.value).resolve ctx = .resolved value
        ∧ c.substitute ctx = { c with value } := by
  unfold substitute
  cases (Symbol.ofValue c.value).resolve ctx with
  | literal => exact .inl rfl
  | unresolved => exact .inl rfl
  | resolved value => exact .inr ⟨value, rfl, rfl⟩

theorem resolved_of_literal (h : Symbol.ofValue c.value = .literal) :
    c.resolved ctx = ⟨c.operand, c.operator, some c.value⟩ := by
  simp only [resolved, h, Symbol.resolve]

theorem substitute_of_literal (h : Symbol.ofValue c.value = .literal) : c.substitute ctx = c := by
  rw [substitute_eq, resolved_of_literal h]
  rfl

/-- A date always settles. -/
theorem settles_of_date {descriptor : String} (h : Symbol.ofValue c.value = .date descriptor) :
    c.Settles ctx := by
  intro value hvalue
  rw [h, Symbol.resolve, Resolution.resolved.injEq] at hvalue
  rw [← hvalue]
  exact Symbol.ofText_isoText (Symbol.instantOrNow ctx descriptor)

theorem Settles.resolved_substitute (h : c.Settles ctx) :
    (c.substitute ctx).resolved ctx = c.resolved ctx := by
  rcases substitute_cases ctx c with hsame | ⟨value, hvalue, hchanged⟩
  · rw [hsame]
  · have hliteral : Symbol.ofValue (c.substitute ctx).value = .literal := by
      rw [hchanged]
      exact h value hvalue
    rw [resolved_of_literal hliteral, hchanged, resolved, hvalue]

theorem Settles.substitute_substitute (h : c.Settles ctx) :
    (c.substitute ctx).substitute ctx = c.substitute ctx := by
  rw [substitute_eq ctx (c.substitute ctx), h.resolved_substitute, substitute_eq ctx c]
  cases (c.resolved ctx).value <;> rfl

theorem Settles.calendarError?_substitute (h : c.Settles ctx)
    (hdate : (Symbol.ofValue c.value).calendarError? ctx = none) :
    (Symbol.ofValue (c.substitute ctx).value).calendarError? ctx = none := by
  rcases substitute_cases ctx c with hsame | ⟨value, hvalue, hchanged⟩
  · rw [hsame]
    exact hdate
  · rw [hchanged, h value hvalue]
    rfl

end Condition

/-! ## §C Domains -/

/-- The operands and operators of a resolved domain, clause by clause. -/
def ResolvedDomain.outline (d : ResolvedDomain) : List (List (Value × Operator)) :=
  d.clauses.map fun clause => clause.map fun c => (c.operand, c.operator)

/-- The values of a resolved domain, clause by clause; none where a reference led to nothing. -/
def ResolvedDomain.values (d : ResolvedDomain) : List (List (Option Value)) :=
  d.clauses.map fun clause => clause.map ResolvedCondition.value

namespace Domain

/-- The operands and operators of a domain, clause by clause. -/
def outline (d : Domain) : List (List (Value × Operator)) :=
  d.clauses.map fun clause => clause.conditions.map fun c => (c.operand, c.operator)

/-- The values of a domain, clause by clause. -/
def values (d : Domain) : List (List Value) :=
  d.clauses.map fun clause => clause.conditions.map Condition.value

/-- Every condition settles. -/
def Settles (ctx : Context) (d : Domain) : Prop := ∀ c ∈ d.conditions, c.Settles ctx

variable {ctx : Context} {d : Domain}

theorem substitute_eq_mapConditions (ctx : Context) (d : Domain) :
    d.substitute ctx = d.mapConditions (Condition.substitute ctx) := rfl

theorem outline_resolved (ctx : Context) (d : Domain) : (d.resolved ctx).outline = d.outline := by
  simp only [ResolvedDomain.outline, resolved, outline, List.map_map, Function.comp_def,
    Condition.resolved]

theorem outline_substitute (ctx : Context) (d : Domain) :
    (d.substitute ctx).outline = d.outline := by
  simp only [outline, substitute, List.map_map, Function.comp_def, Condition.substitute_eq]

theorem values_substitute (ctx : Context) (d : Domain) :
    (d.substitute ctx).values
      = List.zipWith (List.zipWith Option.getD) (d.resolved ctx).values d.values := by
  simp only [values, ResolvedDomain.values, substitute, resolved, List.map_map,
    Function.comp_def, List.zipWith_map, List.zipWith_self, Condition.substitute_eq]

theorem Settles.resolved_substitute (h : d.Settles ctx) :
    (d.substitute ctx).resolved ctx = d.resolved ctx := by
  simp only [resolved, substitute, List.map_map, Function.comp_def]
  congr 1
  apply List.map_congr_left
  intro clause hclause
  apply List.map_congr_left
  intro c hc
  exact (h c (mem_conditions_of_mem hclause hc)).resolved_substitute

theorem Settles.substitute_substitute (h : d.Settles ctx) :
    (d.substitute ctx).substitute ctx = d.substitute ctx := by
  rw [substitute_eq_mapConditions ctx (d.substitute ctx), mapConditions_eq_self_iff,
    substitute_eq_mapConditions, conditions_mapConditions, List.forall_mem_map]
  intro c hc
  exact (h c hc).substitute_substitute

theorem Settles.datesInCalendar_substitute (h : d.Settles ctx) (hdates : d.DatesInCalendar ctx) :
    (d.substitute ctx).DatesInCalendar ctx := by
  rw [DatesInCalendar, substitute_eq_mapConditions, conditions_mapConditions, List.forall_mem_map]
  intro c hc
  exact (h c hc).calendarError?_substitute (hdates c hc)

theorem parse_of_datesInCalendar (h : d.DatesInCalendar ctx) :
    d.parse ctx = .ok (d.substitute ctx) :=
  unlessCalendarError_of_datesInCalendar h _

theorem resolve_of_datesInCalendar (h : d.DatesInCalendar ctx) :
    d.resolve ctx = .ok (d.resolved ctx) :=
  unlessCalendarError_of_datesInCalendar h _

theorem parse_of_calendarError? {e : CalendarError} (h : d.calendarError? ctx = some e) :
    d.parse ctx = .error e :=
  unlessCalendarError_of_calendarError? h _

/-- What is asked of the parsed domain fails where parsing fails, and nowhere else: no date is left
that could. -/
theorem Settles.parse_bind {α : Type} (h : d.Settles ctx) (ask : Domain → α) :
    (d.parse ctx >>= fun parsed => parsed.unlessCalendarError ctx (ask parsed))
      = d.unlessCalendarError ctx (ask (d.substitute ctx)) := by
  by_cases hdates : d.DatesInCalendar ctx
  · have hafter := h.datesInCalendar_substitute hdates
    rw [parse_of_datesInCalendar hdates, unlessCalendarError_of_datesInCalendar hdates]
    exact unlessCalendarError_of_datesInCalendar hafter _
  · obtain ⟨e, herror⟩ := exists_calendarError hdates
    rw [parse_of_calendarError? herror, unlessCalendarError_of_calendarError? herror]
    rfl

theorem Settles.parse_parse (h : d.Settles ctx) : (d.parse ctx >>= parse ctx) = d.parse ctx := by
  refine (h.parse_bind (substitute ctx)).trans ?_
  rw [h.substitute_substitute, parse]

theorem Settles.parse_evaluate (h : d.Settles ctx) :
    (d.parse ctx >>= evaluate ctx) = d.evaluate ctx := by
  refine (h.parse_bind (holds ctx)).trans ?_
  rw [holds, h.resolved_substitute, evaluate, holds]

/-! ## §D Replaced in the domain or in a copy -/

/-- **`parse_agrees_with_resolve`** — parsing and resolving either both have a result or fail alike
on a date. The results have the domain's operands and operators in its places, and the parsed domain
has the value that the resolved one has, or the domain's own value where that has none. If every
reference settles, a second parse changes nothing and the parsed domain says what the domain says,
with the references that lead to nothing still among its values. -/
theorem parse_agrees_with_resolve (ctx : Context) (d : Domain) :
    (d.DatesInCalendar ctx → ∃ parsed resolved,
        d.parse ctx = .ok parsed ∧ d.resolve ctx = .ok resolved
          ∧ parsed.outline = d.outline ∧ resolved.outline = d.outline
          ∧ parsed.values = List.zipWith (List.zipWith Option.getD) resolved.values d.values)
      ∧ (¬ d.DatesInCalendar ctx → ∃ e, d.parse ctx = .error e ∧ d.resolve ctx = .error e)
      ∧ (d.Settles ctx →
        (d.parse ctx >>= parse ctx) = d.parse ctx
          ∧ (d.parse ctx >>= evaluate ctx) = d.evaluate ctx) := by
  refine ⟨?_, ?_, ?_⟩
  · intro hdates
    exact ⟨_, _, parse_of_datesInCalendar hdates, resolve_of_datesInCalendar hdates,
      outline_substitute ctx d, outline_resolved ctx d, values_substitute ctx d⟩
  · intro hdates
    obtain ⟨e, herror⟩ := exists_calendarError hdates
    exact ⟨e, parse_of_calendarError? herror, unlessCalendarError_of_calendarError? herror _⟩
  · intro hsettles
    exact ⟨hsettles.parse_parse, hsettles.parse_evaluate⟩

/-- What is due by the end of the month for its owner, or what is in the parent's team. -/
def duties : Domain :=
  ⟨[⟨[⟨.string "owner", .eq, .string "user.id"⟩,
      ⟨.string "due", .le, .string "date.this.month.last"⟩]⟩,
    ⟨[⟨.string "team", .isIn, .string "parent.team"⟩]⟩]⟩

/-- For nobody, something long due under a parent whose team has neither an id nor a name. -/
def longDue : Context :=
  Records.atYearZero { object := [("due", .string "-0001-12-31")], parent := [("team", .object [])] }

theorem duties_datesInCalendar : duties.DatesInCalendar longDue := by
  unfold DatesInCalendar
  decide +kernel

theorem duties_settles : duties.Settles longDue := by
  have howner : Condition.Settles longDue ⟨.string "owner", .eq, .string "user.id"⟩ := by
    intro value hvalue
    cases hvalue
  have hdue : Condition.Settles longDue ⟨.string "due", .le, .string "date.this.month.last"⟩ :=
    Condition.settles_of_date rfl
  have hteam : Condition.Settles longDue ⟨.string "team", .isIn, .string "parent.team"⟩ := by
    intro value hvalue
    cases hvalue
    rfl
  intro c hc
  rcases List.mem_cons.mp hc with rfl | hc
  · exact howner
  · rcases List.mem_cons.mp hc with rfl | hc
    · exact hdue
    · rw [List.mem_singleton.mp hc]
      exact hteam

/-- The owner stays a reference, the date becomes a text and the team null, and the due date still
holds. -/
theorem parse_agrees_with_resolve_of_duties :
    duties.DatesInCalendar longDue ∧ duties.Settles longDue
      ∧ (∃ parsed resolved,
        duties.parse longDue = .ok parsed ∧ duties.resolve longDue = .ok resolved
          ∧ parsed.outline = duties.outline ∧ resolved.outline = duties.outline
          ∧ parsed.values
            = List.zipWith (List.zipWith Option.getD) resolved.values duties.values)
      ∧ (duties.parse longDue >>= parse longDue) = duties.parse longDue
      ∧ (duties.parse longDue >>= evaluate longDue) = .ok true := by
  obtain ⟨hboth, -, hagain⟩ := parse_agrees_with_resolve longDue duties
  obtain ⟨hparse, hevaluate⟩ := hagain duties_settles
  exact ⟨duties_datesInCalendar, duties_settles, hboth duties_datesInCalendar, hparse,
    hevaluate.trans rfl⟩

/-! ## §E Replaced before a merge or after it -/

end Domain

theorem Condition.toValue_substitute_reread (ctx : Context) (c : Condition) :
    (c.reread.substitute ctx).toValue = (c.substitute ctx).toValue := by
  by_cases hnull : c.value = .null
  · -- null is no reference, and neither is the text that it is reread as
    have hbefore : Symbol.ofValue c.value = .literal := by rw [hnull]; rfl
    have hafter : Symbol.ofValue c.reread.value = .literal := by
      rw [reread, hnull]
      exact ofValue_nullText
    rw [substitute_of_literal hbefore, substitute_of_literal hafter, toValue_reread]
  · -- the value is the same, and the operator is written as the same token
    have hreread : c.reread = { c with operator := .ofToken c.operator.token } := by
      rw [reread, writtenValue_of_ne_null hnull]
    rw [hreread, substitute_eq, substitute_eq]
    simp only [toValue, Operator.token_ofToken, resolved]

namespace Domain

theorem toValue_substitute_reread (ctx : Context) (d : Domain) :
    (d.reread.substitute ctx).toValue = (d.substitute ctx).toValue := by
  rw [reread, substitute_eq_mapConditions, mapConditions_mapConditions,
    substitute_eq_mapConditions]
  exact toValue_mapConditions_congr fun c _ => c.toValue_substitute_reread ctx

theorem Readable.substitute {d : Domain} (h : d.Readable) (ctx : Context) :
    (d.substitute ctx).Readable :=
  h.of_corresponds (corresponds_mapConditions (Condition.sameButValue_substitute ctx) d)

theorem toValue_substitute_merge {a b : Domain} (ha : a.Readable) (hb : b.Readable)
    (ctx : Context) :
    ((a.merge b).substitute ctx).toValue
      = ((a.substitute ctx).merge (b.substitute ctx)).toValue := by
  calc ((a.merge b).substitute ctx).toValue
      = ((a.product b).reread.substitute ctx).toValue := by rw [merge_of_readable ha hb]
    _ = ((a.product b).substitute ctx).toValue := toValue_substitute_reread ctx (a.product b)
    _ = ((a.substitute ctx).product (b.substitute ctx)).toValue :=
        congrArg toValue (mapConditions_product (Condition.substitute ctx) a b)
    _ = ((a.substitute ctx).merge (b.substitute ctx)).toValue :=
        (toValue_merge (ha.substitute ctx) (hb.substitute ctx)).symm

theorem datesInCalendar_merge {ctx : Context} {a b : Domain} (ha : a.Readable) (hb : b.Readable) :
    (a.merge b).DatesInCalendar ctx ↔ a.DatesInCalendar ctx ∧ b.DatesInCalendar ctx := by
  rw [merge_of_readable ha hb, datesInCalendar_reread, datesInCalendar_product]

theorem toOption_parse_of_not_datesInCalendar {ctx : Context} {d : Domain}
    (h : ¬ d.DatesInCalendar ctx) : (d.parse ctx).toOption = none := by
  obtain ⟨e, herror⟩ := exists_calendarError h
  rw [parse_of_calendarError? herror]
  rfl

/-- **`toValue_parse_merge`** — of two domains that were read, the merge parsed is written as the
two parsed and then merged, whatever their references lead to: to null, to nothing, or to the text
of another reference. The one has a result exactly if the other has. -/
theorem toValue_parse_merge (first second : Value) (ctx : Context) :
    let a := ofValue first
    let b := ofValue second
    ((a.merge b).parse ctx).toOption.map toValue
      = Option.map₂ (fun x y => (x.merge y).toValue)
          (a.parse ctx).toOption (b.parse ctx).toOption := by
  intro a b
  have ha : a.Readable := readable_ofValue first
  have hb : b.Readable := readable_ofValue second
  by_cases haDates : a.DatesInCalendar ctx
  · by_cases hbDates : b.DatesInCalendar ctx
    · have hmerge := (datesInCalendar_merge ha hb).mpr ⟨haDates, hbDates⟩
      rw [parse_of_datesInCalendar hmerge, parse_of_datesInCalendar haDates,
        parse_of_datesInCalendar hbDates]
      exact congrArg some (toValue_substitute_merge ha hb ctx)
    · have hmerge := mt (datesInCalendar_merge ha hb).mp fun h => hbDates h.2
      rw [toOption_parse_of_not_datesInCalendar hmerge,
        toOption_parse_of_not_datesInCalendar hbDates, Option.map₂_none_right]
      rfl
  · have hmerge := mt (datesInCalendar_merge ha hb).mp fun h => haDates h.1
    rw [toOption_parse_of_not_datesInCalendar hmerge,
      toOption_parse_of_not_datesInCalendar haDates, Option.map₂_none_left]
    rfl

/-- Only the arrays are the same: a null that a reference led to becomes text in a merge, and a
reference that is merged first leads to null after it. -/
example :
    let a := ofValue (.array [.string "team", .string "in", .string "parent.team"])
    ((a.merge empty).substitute longDue).values = [[.null]]
      ∧ ((a.substitute longDue).merge (empty.substitute longDue)).values = [[.string "null"]] :=
  ⟨rfl, rfl⟩

end Domain

end DomainFilter
