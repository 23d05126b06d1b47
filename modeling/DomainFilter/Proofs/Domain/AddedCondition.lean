/-
# DomainFilter.Proofs.Domain.AddedCondition — a condition added, or merged

A condition can be put into a domain in two ways: added, which puts it behind the others in every
clause, or merged as a domain of its own, which puts it before them and reads the whole back. The
clauses differ in their order, and no verdict can tell.

* §A **`holdsBy_addCondition`** — an added condition says what it says in the product.
* §B **`merge_single`** — merging one condition makes the product, if nothing is lost in reading back.
* §C **`addCondition_agrees_with_merge`** — both say in every context what the domain and the
  condition say together.

BOUNDARY: in a domain without clauses an added condition has no place, while a merge makes it the
domain.
-/
import DomainFilter.Proofs.Domain.Conjunction
import DomainFilter.Proofs.Verdict.Null

namespace DomainFilter

/-- A supported operator has a known token. -/
theorem Operator.isKnown_token_of_isSupported {operator : Operator}
    (h : operator.isSupported = true) : isKnown operator.token = true := by
  cases operator with
  | unsupported token => cases h
  | _ => decide

/-! ## §A In every clause -/

theorem Clause.holdsBy_concat (saying : Condition → Option Bool) (conditions : List Condition)
    (c : Condition) :
    Clause.holdsBy saying ⟨conditions ++ [c]⟩
      = (Clause.holdsBy saying ⟨conditions⟩ && (saying c).getD true) := by
  rw [holdsBy_append, ← Domain.holdsBy_singleton saying ⟨[c]⟩]
  show (_ && (Domain.single c).holdsBy saying) = _
  rw [Domain.holdsBy_single]

namespace Domain

section

variable {d : Domain} (hclauses : d.clauses ≠ [])

include hclauses

theorem mem_conditions_addCondition {added c : Condition} :
    c ∈ (d.addCondition added).conditions ↔ c ∈ d.conditions ∨ c = added := by
  obtain ⟨first, hfirst⟩ := List.exists_mem_of_ne_nil _ hclauses
  simp only [mem_conditions, addCondition, List.mem_map]
  constructor
  · rintro ⟨_, ⟨clause, hclause, rfl⟩, hc⟩
    rcases List.mem_append.mp hc with hc | hc
    · exact .inl ⟨clause, hclause, hc⟩
    · exact .inr (List.mem_singleton.mp hc)
  · rintro (⟨clause, hclause, hc⟩ | rfl)
    · exact ⟨_, ⟨clause, hclause, rfl⟩, List.mem_append_left _ hc⟩
    · -- it stands in every clause, so in the first one
      exact ⟨_, ⟨first, hfirst, rfl⟩, List.mem_append_right _ (List.mem_singleton.mpr rfl)⟩

theorem datesInCalendar_addCondition {ctx : Context} {c : Condition} :
    (d.addCondition c).DatesInCalendar ctx ↔
      d.DatesInCalendar ctx ∧ (Symbol.ofValue c.value).calendarError? ctx = none := by
  simp only [DatesInCalendar, mem_conditions_addCondition hclauses, or_imp, forall_and, forall_eq]

/-- **`holdsBy_addCondition`** — a condition added to every clause is a conjunct of the domain. -/
theorem holdsBy_addCondition (saying : Condition → Option Bool) (c : Condition) :
    (d.addCondition c).holdsBy saying = (d.holdsBy saying && (saying c).getD true) := by
  rw [Bool.eq_iff_iff, Bool.and_eq_true]
  simp only [holdsBy_iff, addCondition, List.map_eq_nil_iff, hclauses, false_or]
  constructor
  · rintro ⟨_, hmem, hholds⟩
    obtain ⟨clause, hclause, rfl⟩ := List.mem_map.mp hmem
    rw [Clause.holdsBy_concat, Bool.and_eq_true] at hholds
    exact ⟨⟨clause, hclause, hholds.1⟩, hholds.2⟩
  · rintro ⟨⟨clause, hclause, hholds⟩, hsays⟩
    refine ⟨_, List.mem_map_of_mem hclause, ?_⟩
    rw [Clause.holdsBy_concat, Bool.and_eq_true]
    exact ⟨hholds, hsays⟩

end

/-! ## §B Merged as a domain -/

/-- The domain of one condition with a supported operator and a value that is not null survives its
array form. -/
theorem canonical_single {c : Condition} (hsupported : c.operator.isSupported = true)
    (hvalue : c.value ≠ .null) : (single c).Canonical := by
  have hreadable : (single c).Readable :=
    .inr ⟨c, rfl, Operator.isKnown_token_of_isSupported hsupported⟩
  apply hreadable.canonical_iff.mpr
  intro other hother
  rw [conditions_single, List.mem_singleton] at hother
  rw [hother]
  exact ⟨Operator.isDisguised_of_isSupported hsupported, hvalue⟩

/-! ## §C Both ways -/

end Domain

/-- What a condition counts for in a context: true where it says nothing, because it is skipped or
its reference leads to nothing. It counts for nothing at all if its date leaves the calendar. -/
def Condition.counted? (ctx : Context) (c : Condition) : Option Bool :=
  match (Symbol.ofValue c.value).calendarError? ctx with
  | none => some ((c.verdictIn ctx).getD true)
  | some _ => none

namespace Domain

theorem toOption_evaluate_single (ctx : Context) (c : Condition) :
    ((single c).evaluate ctx).toOption = c.counted? ctx := by
  unfold Condition.counted?
  cases herror : (Symbol.ofValue c.value).calendarError? ctx with
  | none =>
    rw [evaluate_single herror]
    rfl
  | some e =>
    have hdomain : (single c).calendarError? ctx = some e := by
      rw [calendarError?, conditions_single, List.findSome?_singleton, herror]
    rw [evaluate_of_calendarError? hdomain]
    rfl

/-- Added or merged as a product, a condition leaves the same verdict. -/
theorem toOption_evaluate_addCondition {d : Domain} (hclauses : d.clauses ≠ []) (ctx : Context)
    (c : Condition) :
    ((d.addCondition c).evaluate ctx).toOption
      = ((d.product (single c)).evaluate ctx).toOption := by
  apply Option.ext
  intro verdict
  rw [toOption_evaluate_eq_some_iff, toOption_evaluate_eq_some_iff,
    datesInCalendar_addCondition hclauses, datesInCalendar_product, datesInCalendar_single,
    holdsBy_addCondition hclauses, holdsBy_product, holdsBy_single]

/-- **`addCondition_agrees_with_merge`** — a condition with a supported operator and a value that is
not null may be added to a canonical domain that has clauses, or merged as a domain of its own: in
every context both say what the domain and the condition say together, and tested by themselves
too. -/
theorem addCondition_agrees_with_merge {d : Domain} {c : Condition} (hcanonical : d.Canonical)
    (hclauses : d.clauses ≠ []) (hsupported : c.operator.isSupported = true)
    (hvalue : c.value ≠ .null) (ctx : Context) :
    ((d.addCondition c).evaluate ctx).toOption
        = Option.map₂ (· && ·) (d.evaluate ctx).toOption (c.counted? ctx)
      ∧ ((d.merge (single c)).evaluate ctx).toOption
        = Option.map₂ (· && ·) (d.evaluate ctx).toOption (c.counted? ctx)
      ∧ (d.addCondition c).test = (d.test && c.verdict.getD true)
      ∧ (d.merge (single c)).test = (d.test && c.verdict.getD true) := by
  have hmerge : d.merge (single c) = d.product (single c) :=
    merge_of_canonical hcanonical (canonical_single hsupported hvalue)
  have hproduct : ((d.product (single c)).evaluate ctx).toOption
      = Option.map₂ (· && ·) (d.evaluate ctx).toOption (c.counted? ctx) := by
    rw [toOption_evaluate_product, toOption_evaluate_single]
  refine ⟨?_, ?_, ?_, ?_⟩
  · rw [toOption_evaluate_addCondition hclauses, hproduct]
  · rw [hmerge, hproduct]
  · simp only [test_eq_holdsBy, holdsBy_addCondition hclauses]
  · simp only [test_eq_holdsBy, hmerge, holdsBy_product, holdsBy_single]

/-- What belongs to the user. -/
def ownedByUser : Condition := ⟨.string "owner", .eq, .string "user.id"⟩

/-- A record of somebody, evaluated for the user 7. -/
def ownedBy (owner : Nat) : Context :=
  Records.atYearZero
    { object := [("owner", .number (.ofNat owner))], user := [("id", .number (.ofNat 7))] }

/-- The empty clause holds of everything, until the condition stands in it. -/
theorem addCondition_agrees_with_merge_of_urgentOrAny :
    urgentOrAny.Canonical ∧ urgentOrAny.clauses ≠ [] ∧ ownedByUser.operator.isSupported = true
      ∧ ownedByUser.value ≠ .null
      ∧ ((urgentOrAny.addCondition ownedByUser).evaluate (ownedBy 8)).toOption = some false
      ∧ ((urgentOrAny.merge (single ownedByUser)).evaluate (ownedBy 8)).toOption = some false
      ∧ ((urgentOrAny.merge (single ownedByUser)).evaluate (ownedBy 7)).toOption = some true := by
  have hcanonical : urgentOrAny.Canonical := rfl
  have hclauses : urgentOrAny.clauses ≠ [] := List.cons_ne_nil _ _
  have hvalue : ownedByUser.value ≠ .null := nofun
  have hverdicts := addCondition_agrees_with_merge hcanonical hclauses rfl hvalue
  refine ⟨hcanonical, hclauses, rfl, hvalue, ?_, ?_, ?_⟩
  · exact (hverdicts (ownedBy 8)).1.trans (by decide +kernel)
  · exact (hverdicts (ownedBy 8)).2.1.trans (by decide +kernel)
  · exact (hverdicts (ownedBy 7)).2.1.trans (by decide +kernel)

end Domain

end DomainFilter
