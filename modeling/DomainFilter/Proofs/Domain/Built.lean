/-
# DomainFilter.Proofs.Domain.Built — domains built by operations

A domain that is read from a value has no clauses or is led by a supported token (`Readable`). The
operations on domains keep that, each for its own reason: conditions and clauses are added behind
the leading condition, values change in their places, and what a merge makes has been read. So a
domain that was read is never lost on the way through its array form, whatever is done to it.

* §A Domains whose conditions correspond place by place, and the operations that change only values.
* §B Operations that add conditions or clauses.
* §C `Domain.Built`, what any sequence of operations makes, and **`Built.readable`**.
* §D **`ofValue?_toValue_of_built`** — the array form of such a domain is read, and as a domain of
  the same array form.

BOUNDARY: a clause may be added only to a domain that has one. The first clause of a domain decides
what its array form is read as, and one that is added as the first can be any.
-/
import Mathlib.Data.List.Forall2
import DomainFilter.Domain.Evaluation
import DomainFilter.Proofs.Domain.Product

namespace DomainFilter

/-! ## §A Operations on values -/

/-- The same operand and the same operator; the value may be another. -/
def Condition.SameButValue (c e : Condition) : Prop :=
  e.operand = c.operand ∧ e.operator = c.operator

theorem Condition.sameButValue_refl (c : Condition) : c.SameButValue c := ⟨rfl, rfl⟩

theorem Condition.sameButValue_substitute (ctx : Context) (c : Condition) :
    c.SameButValue (c.substitute ctx) := by
  unfold substitute
  split
  · exact ⟨rfl, rfl⟩
  · exact c.sameButValue_refl

/-- Two domains with conditions in the same places, related place by place. -/
def Domain.Corresponds (related : Condition → Condition → Prop) (d e : Domain) : Prop :=
  List.Forall₂ (fun x y : Clause => List.Forall₂ related x.conditions y.conditions)
    d.clauses e.clauses

theorem forall₂_self {α : Type} {related : α → α → Prop} (hrefl : ∀ x, related x x) (xs : List α) :
    List.Forall₂ related xs xs :=
  List.forall₂_same.mpr fun x _ => hrefl x

/-- One item is replaced by a related one, and all others stay. -/
theorem forall₂_set {α : Type} {related : α → α → Prop} (hrefl : ∀ x, related x x) {xs : List α}
    {i : Nat} {old new : α} (hold : xs[i]? = some old) (hnew : related old new) :
    List.Forall₂ related xs (xs.set i new) := by
  induction xs generalizing i with
  | nil => cases hold
  | cons x xs ih =>
    cases i with
    | zero =>
      cases hold
      exact .cons hnew (forall₂_self hrefl xs)
    | succ i =>
      rw [List.getElem?_cons_succ] at hold
      exact .cons (hrefl x) (ih hold)

namespace Domain

theorem Corresponds.imp {weak strong : Condition → Condition → Prop} {d e : Domain}
    (himp : ∀ c c', strong c c' → weak c c') (h : d.Corresponds strong e) : d.Corresponds weak e :=
  List.Forall₂.imp (fun _ _ hclause => List.Forall₂.imp himp hclause) h

theorem corresponds_mapConditions {related : Condition → Condition → Prop}
    {change : Condition → Condition} (h : ∀ c, related c (change c)) (d : Domain) :
    d.Corresponds related (d.mapConditions change) := by
  refine List.forall₂_map_right_iff.mpr (forall₂_self ?_ d.clauses)
  intro clause
  exact List.forall₂_map_right_iff.mpr (forall₂_self h clause.conditions)

theorem corresponds_of_setValue? {clause condition : Nat} {value : Value} {d e : Domain}
    (h : d.setValue? clause condition value = some e) :
    d.Corresponds Condition.SameButValue e := by
  simp only [setValue?, Option.bind_eq_bind, Option.bind_eq_some_iff, Option.some.injEq] at h
  obtain ⟨old, hold, target, htarget, rfl⟩ := h
  have hclause : List.Forall₂ Condition.SameButValue old.conditions
      (old.conditions.set condition { target with value }) :=
    forall₂_set Condition.sameButValue_refl htarget ⟨rfl, rfl⟩
  exact forall₂_set (fun x => forall₂_self Condition.sameButValue_refl x.conditions) hold hclause

theorem substitute_of_parse {ctx : Context} {d e : Domain} (h : d.parse ctx = .ok e) :
    d.substitute ctx = e := by
  unfold parse unlessCalendarError at h
  split at h
  · cases h
  · exact Except.ok.inj h

theorem corresponds_of_parse {ctx : Context} {d e : Domain} (h : d.parse ctx = .ok e) :
    d.Corresponds Condition.SameButValue e := by
  rw [← substitute_of_parse h]
  exact corresponds_mapConditions (Condition.sameButValue_substitute ctx) d

/-- The leading condition stands in the same place. -/
theorem Corresponds.leading? {related : Condition → Condition → Prop} {d e : Domain}
    (h : d.Corresponds related e) {c : Condition} (hlead : d.leading? = some c) :
    ∃ c', e.leading? = some c' ∧ related c c' := by
  obtain ⟨dclauses⟩ := d
  obtain ⟨eclauses⟩ := e
  cases h with
  | nil => cases hlead
  | @cons x y _ _ hclause _ =>
    obtain ⟨xconditions⟩ := x
    obtain ⟨yconditions⟩ := y
    cases hclause with
    | nil => cases hlead
    | cons hrelated _ =>
      cases hlead
      exact ⟨_, rfl, hrelated⟩

theorem Readable.of_corresponds {d e : Domain} (hd : d.Readable)
    (h : d.Corresponds Condition.SameButValue e) : e.Readable := by
  rcases hd with hnil | ⟨c, hlead, hknown⟩
  · refine .inl ?_
    rw [Corresponds, hnil] at h
    exact List.forall₂_nil_left_iff.mp h
  · obtain ⟨c', hlead', _, hoperator⟩ := h.leading? hlead
    refine .inr ⟨c', hlead', ?_⟩
    rw [hoperator]
    exact hknown

/-! ## §B Operations that add -/

/-- A clause is added behind the others. -/
theorem leading?_addClause {d : Domain} {c : Condition} (h : d.leading? = some c)
    (clause : Clause) : (d.addClause clause).leading? = some c := by
  obtain ⟨clauses⟩ := d
  cases clauses with
  | nil => cases h
  | cons first rest => exact h

/-- The leading condition is in a clause, and there it stays the first. -/
theorem leading?_addCondition {d : Domain} {c : Condition} (h : d.leading? = some c)
    (added : Condition) : (d.addCondition added).leading? = some c := by
  obtain ⟨clauses⟩ := d
  cases clauses with
  | nil => cases h
  | cons first rest =>
    obtain ⟨conditions⟩ := first
    cases conditions with
    | nil => cases h
    | cons lead others => exact h

theorem Readable.addClause {d : Domain} (h : d.Readable) (hne : d.isEmpty = false)
    (clause : Clause) : (d.addClause clause).Readable := by
  rcases h with hnil | ⟨c, hlead, hknown⟩
  · rw [isEmpty_iff.mpr hnil] at hne
    cases hne
  · exact .inr ⟨c, leading?_addClause hlead clause, hknown⟩

theorem Readable.addCondition {d : Domain} (h : d.Readable) (added : Condition) :
    (d.addCondition added).Readable := by
  rcases h with hnil | ⟨c, hlead, hknown⟩
  · refine .inl ?_
    rw [Domain.addCondition, hnil]
    rfl
  · exact .inr ⟨c, leading?_addCondition hlead added, hknown⟩

/-! ## §C Every sequence of operations -/

/-- What can be made of the empty domain, or of what any value is read as, by the operations on
domains. -/
inductive Built : Domain → Prop where
  | empty : Built .empty
  /-- Whatever a domain was, reading a value into it makes it what the value is read as. -/
  | read (raw : Value) : Built (ofValue raw)
  | addCondition {d : Domain} (hd : Built d) (condition : Condition) :
      Built (d.addCondition condition)
  | addClause {d : Domain} (hd : Built d) (hne : d.isEmpty = false) (clause : Clause) :
      Built (d.addClause clause)
  | setValue {d e : Domain} {clause condition : Nat} {value : Value} (hd : Built d)
      (h : d.setValue? clause condition value = some e) : Built e
  | parse {d e : Domain} {ctx : Context} (hd : Built d) (h : d.parse ctx = .ok e) : Built e
  /-- Without a fixed clock each reference is read at a moment of its own. -/
  | parseRunning {d e : Domain} (hd : Built d)
      (h : d.Corresponds (fun c c' => ∃ ctx, c' = c.substitute ctx) e) : Built e
  | merge {d other : Domain} (hd : Built d) (hother : Built other) : Built (d.merge other)

/-- **`Built.readable`** — no operation takes a supported token out of the lead. -/
theorem Built.readable {d : Domain} (h : d.Built) : d.Readable := by
  induction h with
  | empty => exact .inl rfl
  | read raw => exact readable_ofValue raw
  | addCondition _ condition ih => exact ih.addCondition condition
  | addClause _ hne clause ih => exact ih.addClause hne clause
  | setValue _ hset ih => exact ih.of_corresponds (corresponds_of_setValue? hset)
  | parse _ hparse ih => exact ih.of_corresponds (corresponds_of_parse hparse)
  | parseRunning _ hparse ih =>
    refine ih.of_corresponds (hparse.imp ?_)
    rintro c _ ⟨ctx, rfl⟩
    exact c.sameButValue_substitute ctx
  | @merge d other _ _ _ _ => exact readable_merge d other

/-! ## §D The array form of what was built -/

theorem clauseArrays_reread (d : Domain) : d.reread.clauseArrays = d.clauseArrays := by
  have hconditions : ∀ clause : Clause, clause.reread.conditions.map Condition.toValue
      = clause.conditions.map Condition.toValue := by
    intro clause
    exact Value.array.inj clause.toValue_reread
  simp only [clauseArrays, clauses_reread, List.map_map, Function.comp_def, hconditions]

/-- **`ofValue?_toValue_of_built`** — the array form of a domain that was built is always read, and
what it is read as writes the same array again, clause by clause and condition by condition. -/
theorem ofValue?_toValue_of_built {d : Domain} (h : d.Built) :
    ofValue? d.toValue = .ok (ofValue d.toValue)
      ∧ (ofValue d.toValue).toValue = d.toValue
      ∧ (ofValue d.toValue).clauseArrays = d.clauseArrays := by
  have hreadable : d.Readable := h.readable
  rw [hreadable.ofValue_toValue]
  exact ⟨hreadable.ofValue?_toValue, toValue_reread d, clauseArrays_reread d⟩

/-- The user's own orders that are not closed, or anything. -/
def openOrders : Domain :=
  ((ofValue (.array [.string "owner", .string "=", .string "user.id"])).merge
    (ofValue (.array [.string "closed", .string "is", .null]))).addClause ⟨[]⟩

/-- The same with a kind asked for in both clauses, by a disguised operator. -/
def openOrdersOfKind : Domain :=
  openOrders.addCondition ⟨.string "kind", .unsupported "=", .null⟩

theorem built_openOrdersOfKind : openOrdersOfKind.Built := by
  have hmerged := Built.merge (.read (.array [.string "owner", .string "=", .string "user.id"]))
    (.read (.array [.string "closed", .string "is", .null]))
  exact .addCondition (.addClause hmerged rfl ⟨[]⟩) _

/-- The array form is read as another domain, which has the same array form. -/
theorem ofValue?_toValue_of_openOrdersOfKind :
    openOrdersOfKind.Built ∧ ofValue openOrdersOfKind.toValue ≠ openOrdersOfKind
      ∧ ofValue? openOrdersOfKind.toValue = .ok (ofValue openOrdersOfKind.toValue)
      ∧ (ofValue openOrdersOfKind.toValue).toValue = openOrdersOfKind.toValue
      ∧ (ofValue openOrdersOfKind.toValue).clauseArrays = openOrdersOfKind.clauseArrays := by
  have hchanged : ofValue openOrdersOfKind.toValue ≠ openOrdersOfKind := by
    intro hsame
    have hconditions := built_openOrdersOfKind.readable.canonical_iff.mp hsame
    have hdisguised : ∀ c ∈ openOrdersOfKind.conditions, c.operator.isDisguised = false :=
      fun c hc => (hconditions c hc).1
    revert hdisguised
    decide
  exact ⟨built_openOrdersOfKind, hchanged, ofValue?_toValue_of_built built_openOrdersOfKind⟩

end Domain

end DomainFilter
