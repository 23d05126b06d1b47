/-
# DomainFilter.Proofs.Domain.Conditions — domains condition by condition

What changes a domain in place changes each of its conditions for itself: `Domain.mapConditions`.
Writing a domain and reading it back is one such change, substituting its references another.

* §A Which conditions a domain has, and when it has no clauses.
* §B `mapConditions`, and that it is decided by what it does to those.
* §C `leading?`, the first condition of the first clause.
* §D `single`, the domain that is one condition.
* §E **`toValue_of_parts`** — what holds of the parts of every condition holds of the array form.
-/
import DomainFilter.Domain.Basic

namespace DomainFilter

/-! ## §A Membership and emptiness -/

theorem Domain.mem_conditions {d : Domain} {c : Condition} :
    c ∈ d.conditions ↔ ∃ clause ∈ d.clauses, c ∈ clause.conditions :=
  List.mem_flatMap

theorem Domain.mem_conditions_of_mem {d : Domain} {clause : Clause} (hclause : clause ∈ d.clauses)
    {c : Condition} (hc : c ∈ clause.conditions) : c ∈ d.conditions :=
  mem_conditions.mpr ⟨clause, hclause, hc⟩

theorem Domain.isEmpty_iff {d : Domain} : d.isEmpty = true ↔ d.clauses = [] := List.isEmpty_iff

/-! ## §B Changing each condition -/

/-- A clause with each condition changed in its place. -/
def Clause.mapConditions (change : Condition → Condition) (clause : Clause) : Clause :=
  ⟨clause.conditions.map change⟩

/-- A domain with each condition changed in its place. -/
def Domain.mapConditions (change : Condition → Condition) (d : Domain) : Domain :=
  ⟨d.clauses.map (·.mapConditions change)⟩

theorem Clause.mapConditions_eq_self {change : Condition → Condition} {clause : Clause}
    (h : ∀ c ∈ clause.conditions, change c = c) : clause.mapConditions change = clause :=
  congrArg Clause.mk ((List.map_congr_left h).trans (List.map_id _))

namespace Domain

theorem conditions_mapConditions (change : Condition → Condition) (d : Domain) :
    (d.mapConditions change).conditions = d.conditions.map change := by
  simp only [conditions, mapConditions, List.flatMap_map, List.map_flatMap, Clause.mapConditions]

theorem mapConditions_mapConditions (first second : Condition → Condition) (d : Domain) :
    (d.mapConditions first).mapConditions second = d.mapConditions (second ∘ first) := by
  simp only [mapConditions, Clause.mapConditions, List.map_map, Function.comp_def]

theorem mapConditions_eq_self_iff {change : Condition → Condition} {d : Domain} :
    d.mapConditions change = d ↔ ∀ c ∈ d.conditions, change c = c := by
  constructor
  · intro h
    have hconditions : d.conditions.map change = d.conditions.map id := by
      rw [← conditions_mapConditions, h, List.map_id]
    exact List.map_inj_left.mp hconditions
  · intro h
    have hclauses : ∀ clause ∈ d.clauses, clause.mapConditions change = clause := by
      intro clause hclause
      exact Clause.mapConditions_eq_self fun c hc => h c (mem_conditions_of_mem hclause hc)
    exact congrArg Domain.mk ((List.map_congr_left hclauses).trans (List.map_id _))

theorem toValue_mapConditions_congr {first second : Condition → Condition} {d : Domain}
    (h : ∀ c ∈ d.conditions, (first c).toValue = (second c).toValue) :
    (d.mapConditions first).toValue = (d.mapConditions second).toValue := by
  simp only [toValue, mapConditions, List.map_map]
  congr 1
  apply List.map_congr_left
  intro clause hclause
  simp only [Function.comp_apply, Clause.toValue, Clause.mapConditions, List.map_map]
  congr 1
  apply List.map_congr_left
  intro c hc
  exact h c (mem_conditions_of_mem hclause hc)

/-! ## §C The leading condition -/

/-- The first condition of the first clause. -/
def leading? (d : Domain) : Option Condition := d.clauses.head?.bind (·.conditions.head?)

/-! ## §D One condition -/

/-- The domain that is one condition. -/
def single (c : Condition) : Domain := ⟨[⟨[c]⟩]⟩

theorem conditions_single (c : Condition) : (single c).conditions = [c] := rfl

/-! ## §E Inside the array form -/

section Parts

variable {p : Nat → Value → Prop} {n : Nat} (hstring : ∀ n s, p n (.string s))
  (harray : ∀ {n items}, (∀ item ∈ items, p n item) → p (n + 1) (.array items))

include hstring harray

/-- A null that is written as a string is no operand and no value, but a string. -/
theorem condition_toValue_of_parts {c : Condition} (hoperand : p n c.operand)
    (hvalue : p n c.value) : p (n + 1) c.toValue := by
  have hwritten : p n (Condition.writtenValue c.value) := by
    unfold Condition.writtenValue
    split
    · exact hstring n "null"
    · exact hvalue
  apply harray
  simp only [List.forall_mem_cons]
  exact ⟨hoperand, hstring n _, hwritten, List.forall_mem_nil _⟩

/-- **`toValue_of_parts`** — what holds of both sides of every condition, of any string, and of an
array one level further out than of its items, holds of the array form three levels further out. -/
theorem toValue_of_parts {d : Domain} (h : ∀ c ∈ d.conditions, p n c.operand ∧ p n c.value) :
    p (n + 3) d.toValue := by
  apply harray
  rw [List.forall_mem_map]
  intro clause hclause
  apply harray
  rw [List.forall_mem_map]
  intro c hc
  obtain ⟨hoperand, hvalue⟩ := h c (mem_conditions_of_mem hclause hc)
  exact condition_toValue_of_parts hstring harray hoperand hvalue

end Parts

end Domain

end DomainFilter
