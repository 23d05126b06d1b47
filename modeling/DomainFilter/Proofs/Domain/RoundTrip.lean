/-
# DomainFilter.Proofs.Domain.RoundTrip — what reading back a domain does to its verdicts

A domain that was read from a value is never empty by mistake when its array form is read back, and
without null values only its operators can change: at the second place of an array anything may
stand that is no string, and the text of such an operator may be a supported token. Before the round
trip the operator is unsupported and says false, after it the operator is that token.

* §A Conditions and clauses with such a *disguised* operator.
* §B Whatever conditions say, reading back only adds clauses that hold.
* §C **`verdicts_of_array_form_iff`** — exactly when a domain and its array form have the same
  verdicts. Where no operator is disguised it is the same domain (`canonical_ofValue_iff`).
-/
import DomainFilter.Proofs.Verdict.Null

namespace DomainFilter

/-! ## §A Disguised operators -/

/-- Some condition of the clause has a disguised operator. -/
def Clause.Disguised (clause : Clause) : Prop :=
  ∃ c ∈ clause.conditions, c.operator.isDisguised = true

theorem Operator.eq_unsupported_of_isDisguised {operator : Operator}
    (h : operator.isDisguised = true) : ∃ token, operator = .unsupported token := by
  cases operator with
  | unsupported token => exact ⟨token, rfl⟩
  | _ => cases h

namespace Condition

theorem verdict_of_isDisguised {c : Condition} (h : c.operator.isDisguised = true) :
    c.verdict = some false := by
  obtain ⟨token, htoken⟩ := Operator.eq_unsupported_of_isDisguised h
  rw [verdict, htoken]
  rfl

/-- In a context too a disguised operator says false, unless the value refers to nothing: then the
condition says nothing, before the round trip and after it. -/
theorem verdictIn_of_isDisguised {ctx : Context} {c : Condition} (hvalue : c.value ≠ .null)
    (h : c.operator.isDisguised = true) (hreread : c.reread.verdictIn ctx = some false) :
    c.verdictIn ctx = some false := by
  obtain ⟨token, htoken⟩ := Operator.eq_unsupported_of_isDisguised h
  have hresolved : (c.reread.resolved ctx).value = (c.resolved ctx).value := by
    simp only [resolved, reread, writtenValue_of_ne_null hvalue]
  rw [verdictIn, ResolvedCondition.verdict, hresolved] at hreread
  rw [verdictIn, ResolvedCondition.verdict]
  cases hfound : (c.resolved ctx).value with
  | none =>
    -- a reference to nothing: no operator would have been asked
    rw [hfound] at hreread
    cases hreread
  | some value =>
    have hoperator : (c.resolved ctx).operator = .unsupported token := htoken
    rw [hoperator]
    rfl

end Condition

theorem Clause.reread_eq_self {clause : Clause} (h : ¬ clause.Disguised)
    (hnull : ∀ c ∈ clause.conditions, c.value ≠ .null) : clause.reread = clause := by
  apply mapConditions_eq_self
  intro c hc
  have hoperator : c.operator.isDisguised = false := by
    rw [Bool.eq_false_iff]
    intro hdisguised
    exact h ⟨c, hc, hdisguised⟩
  exact Condition.reread_eq_self hoperator (hnull c hc)

namespace Domain

/-! ## §B Any saying -/

section Saying

variable {saying : Condition → Option Bool} {d : Domain}
  (hnull : ∀ c ∈ d.conditions, c.value ≠ .null)
  (hrefused : ∀ c ∈ d.conditions, c.operator.isDisguised = true →
    saying c.reread = some false → saying c = some false)

include hnull hrefused

/-- **Reading back only widens**: a condition that says false once it is read back said false
before. -/
theorem holdsBy_reread_of_holdsBy (h : d.holdsBy saying = true) :
    d.reread.holdsBy saying = true := by
  rw [reread, holdsBy_mapConditions]
  refine holdsBy_mono ?_ h
  intro c hc hfalse
  cases hdisguised : c.operator.isDisguised with
  | true => exact hrefused c hc hdisguised hfalse
  | false =>
    rw [Function.comp_apply, Condition.reread_eq_self hdisguised (hnull c hc)] at hfalse
    exact hfalse

/-- Reading back keeps whether a domain holds exactly if no clause with a disguised operator comes to
hold where none of the clauses did. -/
theorem holdsBy_reread_eq_iff :
    d.reread.holdsBy saying = d.holdsBy saying ↔
      (d.holdsBy saying = false →
        ∀ clause ∈ d.clauses, clause.Disguised → clause.reread.holdsBy saying = false) := by
  constructor
  · intro hsame hfalse clause hclause _
    rw [hfalse] at hsame
    rw [Bool.eq_false_iff]
    intro hholds
    have hmem : clause.reread ∈ d.reread.clauses := by
      rw [clauses_reread]
      exact List.mem_map_of_mem hclause
    rw [holdsBy_of_mem hmem hholds] at hsame
    cases hsame
  · intro hstays
    cases hholds : d.holdsBy saying with
    | true => exact holdsBy_reread_of_holdsBy hnull hrefused hholds
    | false =>
      -- a clause that holds after reading back is a clause of `d`, or was disguised
      rw [Bool.eq_false_iff] at hholds ⊢
      intro hreread
      apply hholds
      rw [holdsBy_iff] at hreread ⊢
      rcases hreread with hnil | ⟨_, hmem, hclauseHolds⟩
      · exact .inl (List.map_eq_nil_iff.mp hnil)
      · rw [clauses_reread] at hmem
        obtain ⟨clause, hclause, rfl⟩ := List.mem_map.mp hmem
        by_cases hdisguised : clause.Disguised
        · have hrefuses := hstays (Bool.eq_false_iff.mpr hholds) clause hclause hdisguised
          rw [hclauseHolds] at hrefuses
          cases hrefuses
        · have hclauseNull : ∀ c ∈ clause.conditions, c.value ≠ .null :=
            fun c hc => hnull c (mem_conditions_of_mem hclause hc)
          rw [Clause.reread_eq_self hdisguised hclauseNull] at hclauseHolds
          exact .inr ⟨clause, hclause, hclauseHolds⟩

end Saying

/-! ## §C The array form of a domain that was read -/

/-- Evaluated, only disguised clauses matter, and only where the domain does not hold. -/
theorem evaluate_reread_eq_iff {d : Domain} (hnull : ∀ c ∈ d.conditions, c.value ≠ .null)
    (ctx : Context) :
    d.reread.evaluate ctx = d.evaluate ctx ↔
      (d.evaluate ctx = .ok false → ∀ clause ∈ d.clauses, clause.Disguised →
        (Domain.mk [clause.reread]).evaluate ctx = .ok false) := by
  have herror : d.reread.calendarError? ctx = d.calendarError? ctx := calendarError?_reread ctx d
  cases hdates : d.calendarError? ctx with
  | some e =>
    -- the same error before and after, and no verdict to widen
    rw [evaluate_of_calendarError? hdates, evaluate_of_calendarError? (herror.trans hdates)]
    constructor
    · intro _ hrefused
      cases hrefused
    · intro _
      rfl
  | none =>
    have hin : d.DatesInCalendar ctx := calendarError?_eq_none_iff.mp hdates
    have hrereadIn : d.reread.DatesInCalendar ctx :=
      calendarError?_eq_none_iff.mp (herror.trans hdates)
    have hclause : ∀ clause ∈ d.clauses, ((Domain.mk [clause.reread]).evaluate ctx = .ok false ↔
        clause.reread.holdsBy (Condition.verdictIn ctx) = false) := by
      intro clause hmem
      exact evaluate_clause_eq_ok_iff hrereadIn (List.mem_map_of_mem hmem)
    have hrefused : ∀ c ∈ d.conditions, c.operator.isDisguised = true →
        c.reread.verdictIn ctx = some false → c.verdictIn ctx = some false := by
      intro c hc
      exact Condition.verdictIn_of_isDisguised (hnull c hc)
    have hsame := holdsBy_reread_eq_iff hnull hrefused
    rw [evaluate_of_datesInCalendar hin, evaluate_of_datesInCalendar hrereadIn,
      Except.ok.injEq, Except.ok.injEq, hsame]
    refine imp_congr_right fun _ => forall₂_congr fun clause hmem => ?_
    rw [hclause clause hmem]

theorem test_reread_eq_iff {d : Domain} (hnull : ∀ c ∈ d.conditions, c.value ≠ .null) :
    d.reread.test = d.test ↔
      (d.test = false → ∀ clause ∈ d.clauses, clause.Disguised →
        (Domain.mk [clause.reread]).test = false) := by
  simp only [test_eq_holdsBy, holdsBy_singleton]
  refine holdsBy_reread_eq_iff hnull ?_
  intro c _ hdisguised _
  exact Condition.verdict_of_isDisguised hdisguised

/-- **`verdicts_of_array_form_iff`** — a domain read from a value without nulls and its array form
have the same verdict in a context exactly if the domain holds there, or no clause with a disguised
operator holds as it is written; and likewise when the two are tested. -/
theorem verdicts_of_array_form_iff {raw : Value}
    (hnull : ∀ c ∈ (ofValue raw).conditions, c.value ≠ .null) (ctx : Context) :
    ((ofValue (ofValue raw).toValue).evaluate ctx = (ofValue raw).evaluate ctx ↔
        ((ofValue raw).evaluate ctx = .ok false →
          ∀ clause ∈ (ofValue raw).clauses, clause.Disguised →
            (Domain.mk [clause.reread]).evaluate ctx = .ok false))
      ∧ ((ofValue (ofValue raw).toValue).test = (ofValue raw).test ↔
        ((ofValue raw).test = false →
          ∀ clause ∈ (ofValue raw).clauses, clause.Disguised →
            (Domain.mk [clause.reread]).test = false)) := by
  rw [(readable_ofValue raw).ofValue_toValue]
  exact ⟨evaluate_reread_eq_iff hnull ctx, test_reread_eq_iff hnull⟩

/-- In the second condition the token stands in an array. -/
def wrapped : Value :=
  .array [.array [.string "state", .string "=", .string "draft"],
    .array [.string "kind", .array [.string "="], .string "note"]]

/-- A draft of the given kind. -/
def draftOfKind (kind : String) : Context :=
  Records.atYearZero { object := [("kind", .string kind), ("state", .string "draft")] }

theorem wrapped_ne_null : ∀ c ∈ (ofValue wrapped).conditions, c.value ≠ .null := by
  have hisNull : ∀ c ∈ (ofValue wrapped).conditions, c.value.isNull = false := by decide
  intro c hc hnull
  have h := hisNull c hc
  rw [hnull] at h
  cases h

/-- Read as an unsupported operator or as equality, the second condition refuses a memo. -/
theorem verdicts_of_array_form_of_memo :
    (∀ c ∈ (ofValue wrapped).conditions, c.value ≠ .null)
      ∧ (ofValue (ofValue wrapped).toValue).evaluate (draftOfKind "memo")
        = (ofValue wrapped).evaluate (draftOfKind "memo")
      ∧ (ofValue (ofValue wrapped).toValue).test = (ofValue wrapped).test := by
  have hverdicts := verdicts_of_array_form_iff wrapped_ne_null (draftOfKind "memo")
  refine ⟨wrapped_ne_null, hverdicts.1.mpr ?_, hverdicts.2.mpr ?_⟩
  · intro _ clause hclause _
    rw [List.mem_singleton.mp hclause]
    rfl
  · intro _ clause hclause _
    rw [List.mem_singleton.mp hclause]
    rfl

/-- As it is read the domain refuses a draft note, and as it is written it lets it pass. -/
theorem array_form_widens_wrapped :
    (∀ c ∈ (ofValue wrapped).conditions, c.value ≠ .null)
      ∧ (ofValue wrapped).evaluate (draftOfKind "note") = .ok false
      ∧ (ofValue (ofValue wrapped).toValue).evaluate (draftOfKind "note") = .ok true :=
  ⟨wrapped_ne_null, rfl, rfl⟩

end Domain

end DomainFilter
