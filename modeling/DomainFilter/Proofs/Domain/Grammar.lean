/-
# DomainFilter.Proofs.Domain.Grammar — which values are read as domains, and where others fail

The first items of an array decide in which shape it is read, and all of its items have to fit that
shape. Seen from outside this is a grammar of four shapes that exclude each other: nothing, one
condition, one clause, a list of clauses. What is in none of them is refused with the reason, and if
its first items promise a clause or a list of clauses, the reason is the first item in reading order
that should be an array and is none.

* §A Lists read item by item, up to the first item that is not of the kind wanted.
* §B What the items of an array promise: a condition, a clause, a list of clauses.
* §C `Domain.Reads`, the grammar with the domain of each shape, and `Domain.Refuses`, the reasons.
* §D **`reads_or_refuses`** — every value has a shape or a reason.
* §E **`ofValue?_grammar`** — the shapes and the reasons are exactly the results of reading.
-/
import Mathlib.Data.List.Basic
import DomainFilter.Domain.Shape

namespace DomainFilter

/-! ## §A Up to the first item of another kind -/

section FirstOther

variable {α β γ ε : Type}

/-- All items of a list are written by `g`, or there is a first one that is not. -/
theorem eq_map_or_first_other (g : γ → α) (xs : List α) :
    (∃ sources, xs = List.map g sources) ∨
      ∃ sources x after, xs = List.map g sources ++ x :: after ∧ ∀ source, x ≠ g source := by
  induction xs with
  | nil => exact .inl ⟨[], rfl⟩
  | cons x xs ih =>
    by_cases hx : ∃ source, x = g source
    · obtain ⟨source, rfl⟩ := hx
      rcases ih with ⟨sources, rfl⟩ | ⟨sources, y, after, rfl, hy⟩
      · exact .inl ⟨source :: sources, rfl⟩
      · exact .inr ⟨source :: sources, y, after, rfl, hy⟩
    · refine .inr ⟨[], x, xs, rfl, ?_⟩
      intro source hsource
      exact hx ⟨source, hsource⟩

variable {f : α → Except ε β} {g : γ → α} {h : γ → β}
  (hread : ∀ source, f (g source) = .ok (h source))

include hread

theorem mapM_map_eq_ok (sources : List γ) : (sources.map g).mapM f = .ok (sources.map h) := by
  have hpure : f ∘ g = fun source => pure (h source) := funext hread
  rw [List.mapM_map, hpure, List.mapM_pure]
  rfl

/-- What follows the first error is not looked at. -/
theorem mapM_first_error (sources : List γ) {x : α} {e : ε} (hx : f x = .error e)
    (after : List α) : (sources.map g ++ x :: after).mapM f = .error e := by
  rw [List.mapM_append, mapM_map_eq_ok hread, List.mapM_cons, hx]
  rfl

end FirstOther

/-! ## §B What the items of an array promise -/

namespace Value

/-- The array of some arrays. -/
def arrayOfArrays (rows : List (List Value)) : Value := .array (rows.map .array)

/-- The items of a condition array: three, the second of them one of the tokens. -/
def IsConditionItems (items : List Value) : Prop :=
  items.length = 3 ∧ ∃ token ∈ Operator.tokens, items[1]? = some (.string token)

/-- No condition array, but starting with one. -/
def PromisesClause (items : List Value) : Prop :=
  ¬ IsConditionItems items ∧ ∃ first rest, items = .array first :: rest ∧ IsConditionItems first

/-- Neither a condition array nor starting with one, but starting with an array that does. -/
def PromisesClauses (items : List Value) : Prop :=
  ¬ IsConditionItems items ∧
    ∃ first others rest, items = .array (.array first :: others) :: rest
      ∧ ¬ IsConditionItems (.array first :: others) ∧ IsConditionItems first

theorem eq_of_isConditionArray {value : Value} (h : value.isConditionArray = true) :
    ∃ operand token sought, value = .array [operand, .string token, sought]
      ∧ Operator.isKnown token = true := by
  unfold isConditionArray at h
  split at h
  · exact ⟨_, _, _, rfl, h⟩
  · exact absurd h Bool.false_ne_true

theorem eq_of_startsWithCondition {value : Value} (h : value.startsWithCondition = true) :
    ∃ first rest, value = .array (first :: rest) ∧ first.isConditionArray = true := by
  unfold startsWithCondition at h
  split at h
  · exact ⟨_, _, rfl, h⟩
  · exact absurd h Bool.false_ne_true

theorem isConditionArray_iff {items : List Value} :
    (Value.array items).isConditionArray = true ↔ IsConditionItems items := by
  constructor
  · intro h
    obtain ⟨operand, token, sought, heq, hknown⟩ := eq_of_isConditionArray h
    cases heq
    exact ⟨rfl, token, List.contains_iff_mem.mp hknown, rfl⟩
  · rintro ⟨hlength, token, htoken, hsecond⟩
    obtain ⟨operand, second, sought, rfl⟩ := List.length_eq_three.mp hlength
    cases hsecond
    exact List.contains_iff_mem.mpr htoken

theorem isConditionArray_eq_false_iff {items : List Value} :
    (Value.array items).isConditionArray = false ↔ ¬ IsConditionItems items := by
  rw [← isConditionArray_iff, Bool.not_eq_true]

/-- A token is no array. -/
theorem not_isConditionItems_arrays {α : Type} (f : α → List Value) (xs : List α) :
    ¬ IsConditionItems (xs.map fun x => .array (f x)) := by
  rintro ⟨-, token, -, hsecond⟩
  rw [List.getElem?_map, Option.map_eq_some_iff] at hsecond
  obtain ⟨x, -, hx⟩ := hsecond
  cases hx

theorem promisesClause_arrays {first : List Value} (h : IsConditionItems first)
    (others : List (List Value)) : PromisesClause ((first :: others).map .array) :=
  ⟨not_isConditionItems_arrays id (first :: others), first, others.map .array, rfl, h⟩

theorem promisesClauses_arrays {first : List Value} (h : IsConditionItems first)
    (others : List (List Value)) (rest : List (List (List Value))) :
    PromisesClauses (((first :: others) :: rest).map arrayOfArrays) := by
  have hwhole := not_isConditionItems_arrays (List.map Value.array) ((first :: others) :: rest)
  have hhead := not_isConditionItems_arrays id (first :: others)
  exact ⟨hwhole, first, others.map .array, rest.map arrayOfArrays, rfl, hhead, h⟩

theorem items?_eq_some_iff {value : Value} {items : List Value} :
    value.items? = some items ↔ value = .array items := by
  cases value <;> simp [items?]

theorem items?_eq_none_iff {value : Value} :
    value.items? = none ↔ ∀ items, value ≠ .array items := by
  simp only [Option.eq_none_iff_forall_ne_some, ne_eq, items?_eq_some_iff]

end Value

namespace Condition

theorem ofValue?_array (items : List Value) : ofValue? (.array items) = .ok (.ofItems items) := rfl

theorem ofValue?_of_items?_eq_none {value : Value} (h : value.items? = none) :
    ofValue? value = .error (.conditionNotArray value) := by
  cases value with
  | array items => cases h
  | _ => rfl

end Condition

theorem Clause.ofValue?_of_items?_eq_none {value : Value} (h : value.items? = none) :
    ofValue? value = .error (.clauseNotArray value) := by
  cases value with
  | array items => cases h
  | _ => rfl

open Value

/-! ## §C The grammar and the reasons -/

namespace Domain

/-- The shapes in which a value is read, and the domain that it is read as. -/
inductive Reads : Value → Domain → Prop where
  | null : Reads .null empty
  | nothing : Reads (.array []) empty
  | condition {items : List Value} (h : IsConditionItems items) :
      Reads (.array items) ⟨[⟨[.ofItems items]⟩]⟩
  | clause {first : List Value} {others : List (List Value)} (h : IsConditionItems first) :
      Reads (.arrayOfArrays (first :: others)) ⟨[⟨(first :: others).map .ofItems⟩]⟩
  | clauses {first : List Value} {others : List (List Value)} {rest : List (List (List Value))}
      (h : IsConditionItems first) :
      Reads (.array (((first :: others) :: rest).map .arrayOfArrays))
        ⟨((first :: others) :: rest).map fun conditions => ⟨conditions.map .ofItems⟩⟩

/-- The value promises a clause or a list of clauses, all before `bad` is as promised, and `bad`
should be the array of a condition. -/
inductive StopsAtCondition (bad : Value) : Value → Prop where
  | inClause {conditions : List (List Value)} {after : List Value}
      (hpromise : PromisesClause (conditions.map .array ++ bad :: after))
      (hbad : bad.items? = none) :
      StopsAtCondition bad (.array (conditions.map .array ++ bad :: after))
  | inClauses {clauses : List (List (List Value))} {conditions : List (List Value)}
      {behind after : List Value}
      (hpromise : PromisesClauses
        (clauses.map arrayOfArrays ++ .array (conditions.map .array ++ bad :: behind) :: after))
      (hbad : bad.items? = none) :
      StopsAtCondition bad (.array
        (clauses.map arrayOfArrays ++ .array (conditions.map .array ++ bad :: behind) :: after))

/-- The reasons for which a value is not read. -/
inductive Refuses : Value → ShapeError → Prop where
  | notArray {raw : Value} (hnull : raw ≠ .null) (harray : raw.items? = none) :
      Refuses raw (.domainNotArray raw)
  /-- Some items, and they promise nothing. -/
  | unrecognized {items : List Value} (hne : items ≠ []) (hcondition : ¬ IsConditionItems items)
      (hclause : ¬ PromisesClause items) (hclauses : ¬ PromisesClauses items) :
      Refuses (.array items) (.unrecognized (.array items))
  /-- A list of clauses is promised, and the first item out of place should be a clause. -/
  | clause {clauses : List (List (List Value))} {bad : Value} {after : List Value}
      (hpromise : PromisesClauses (clauses.map arrayOfArrays ++ bad :: after))
      (hbad : bad.items? = none) :
      Refuses (.array (clauses.map arrayOfArrays ++ bad :: after)) (.clauseNotArray bad)
  | condition {raw bad : Value} (h : StopsAtCondition bad raw) :
      Refuses raw (.conditionNotArray bad)

end Domain

/-! ## §D Every value has a shape or a reason -/

namespace Domain

theorem reads_or_refuses_of_promisesClause {items : List Value} (h : PromisesClause items) :
    (∃ d, Reads (.array items) d) ∨ ∃ e, Refuses (.array items) e := by
  rcases eq_map_or_first_other Value.array items with
    ⟨conditions, rfl⟩ | ⟨conditions, bad, after, rfl, hbad⟩
  · obtain ⟨-, first, rest, hitems, hfirst⟩ := h
    obtain ⟨_, others, rfl, hhead, -⟩ := List.map_eq_cons_iff.mp hitems
    cases hhead
    exact .inl ⟨_, .clause hfirst⟩
  · exact .inr ⟨_, .condition (.inClause h (items?_eq_none_iff.mpr hbad))⟩

theorem reads_or_refuses_of_promisesClauses {items : List Value} (h : PromisesClauses items) :
    (∃ d, Reads (.array items) d) ∨ ∃ e, Refuses (.array items) e := by
  rcases eq_map_or_first_other arrayOfArrays items with
    ⟨clauses, rfl⟩ | ⟨clauses, bad, after, rfl, hbad⟩
  · obtain ⟨-, first, others, rest, hitems, -, hfirst⟩ := h
    obtain ⟨conditions, rest', rfl, hhead, -⟩ := List.map_eq_cons_iff.mp hitems
    obtain ⟨_, others', rfl, hcondition, -⟩ := List.map_eq_cons_iff.mp (Value.array.inj hhead)
    cases hcondition
    exact .inl ⟨_, .clauses hfirst⟩
  · refine .inr ?_
    cases hitems : bad.items? with
    | none => exact ⟨_, .clause h hitems⟩
    | some inner =>
      -- an array, so one of its own items is out of place
      obtain rfl := items?_eq_some_iff.mp hitems
      rcases eq_map_or_first_other Value.array inner with
        ⟨conditions, rfl⟩ | ⟨conditions, worse, behind, rfl, hworse⟩
      · exact absurd rfl (hbad conditions)
      · exact ⟨_, .condition (.inClauses h (items?_eq_none_iff.mpr hworse))⟩

/-- **`reads_or_refuses`** — there is no value without a shape and without a reason. -/
theorem reads_or_refuses (raw : Value) : (∃ d, Reads raw d) ∨ ∃ e, Refuses raw e := by
  cases raw with
  | null => exact .inl ⟨_, .null⟩
  | array items =>
    by_cases hnil : items = []
    · subst hnil
      exact .inl ⟨_, .nothing⟩
    by_cases hcondition : IsConditionItems items
    · exact .inl ⟨_, .condition hcondition⟩
    by_cases hclause : PromisesClause items
    · exact reads_or_refuses_of_promisesClause hclause
    by_cases hclauses : PromisesClauses items
    · exact reads_or_refuses_of_promisesClauses hclauses
    · exact .inr ⟨_, .unrecognized hnil hcondition hclause hclauses⟩
  | _ => exact .inr ⟨_, .notArray Value.noConfusion rfl⟩

end Domain

/-! ## §E Shapes and reasons are the results of reading -/

namespace Clause

theorem ofValue?_arrayOfArrays (conditions : List (List Value)) :
    ofValue? (.arrayOfArrays conditions) = .ok ⟨conditions.map .ofItems⟩ := by
  rw [arrayOfArrays, ofValue?, ofItems?, mapM_map_eq_ok Condition.ofValue?_array]
  rfl

theorem ofValue?_first_error (conditions : List (List Value)) {bad : Value}
    (hbad : bad.items? = none) (after : List Value) :
    ofValue? (.array (conditions.map .array ++ bad :: after))
      = .error (.conditionNotArray bad) := by
  have herror := Condition.ofValue?_of_items?_eq_none hbad
  rw [ofValue?, ofItems?, mapM_first_error Condition.ofValue?_array conditions herror]
  rfl

end Clause

namespace Domain

theorem ofValue?_of_isConditionItems {items : List Value} (h : IsConditionItems items) :
    ofValue? (.array items) = .ok ⟨[⟨[.ofItems items]⟩]⟩ := by
  cases items with
  | nil => cases h.1
  | cons first rest => rw [ofValue?, if_pos (isConditionArray_iff.mpr h)]

theorem ofValue?_of_promisesClause {items : List Value} (h : PromisesClause items) :
    ofValue? (.array items)
      = (Clause.ofValue? (.array items)).map fun clause => ⟨[clause]⟩ := by
  obtain ⟨hwhole, first, rest, rfl, hfirst⟩ := h
  rw [ofValue?, if_neg (mt isConditionArray_iff.mp hwhole),
    if_pos (isConditionArray_iff.mpr hfirst)]
  rfl

theorem ofValue?_of_promisesClauses {items : List Value} (h : PromisesClauses items) :
    ofValue? (.array items) = (items.mapM Clause.ofValue?).map mk := by
  obtain ⟨hwhole, first, others, rest, rfl, hhead, hfirst⟩ := h
  have hstarts : (Value.array (.array first :: others)).startsWithCondition = true :=
    isConditionArray_iff.mpr hfirst
  rw [ofValue?, if_neg (mt isConditionArray_iff.mp hwhole),
    if_neg (mt isConditionArray_iff.mp hhead), if_pos hstarts]

/-- The converse of the three lemmas above: the first items that are looked at make the promises. -/
theorem ofValue?_of_no_promise {items : List Value} (hne : items ≠ [])
    (hcondition : ¬ IsConditionItems items) (hclause : ¬ PromisesClause items)
    (hclauses : ¬ PromisesClauses items) :
    ofValue? (.array items) = .error (.unrecognized (.array items)) := by
  obtain ⟨first, rest, rfl⟩ := List.exists_cons_of_ne_nil hne
  have hfirst : ¬ first.isConditionArray = true := by
    intro hfirst
    obtain ⟨operand, token, sought, rfl, -⟩ := eq_of_isConditionArray hfirst
    exact hclause ⟨hcondition, _, rest, rfl, isConditionArray_iff.mp hfirst⟩
  have hstarts : ¬ first.startsWithCondition = true := by
    intro hstarts
    obtain ⟨head, others, rfl, hhead⟩ := eq_of_startsWithCondition hstarts
    obtain ⟨operand, token, sought, rfl, -⟩ := eq_of_isConditionArray hhead
    exact hclauses ⟨hcondition, _, others, rest, rfl, mt isConditionArray_iff.mpr hfirst,
      isConditionArray_iff.mp hhead⟩
  rw [ofValue?, if_neg (mt isConditionArray_iff.mp hcondition), if_neg hfirst, if_neg hstarts]

theorem Reads.ofValue?_eq {raw : Value} {d : Domain} (h : Reads raw d) :
    ofValue? raw = .ok d := by
  cases h with
  | null => rfl
  | nothing => rfl
  | condition hitems => exact ofValue?_of_isConditionItems hitems
  | @clause first others hfirst =>
    have hpromise := promisesClause_arrays hfirst others
    have hread := Clause.ofValue?_arrayOfArrays (first :: others)
    rw [arrayOfArrays] at hread ⊢
    rw [ofValue?_of_promisesClause hpromise, hread]
    rfl
  | @clauses first others rest hfirst =>
    have hpromise := promisesClauses_arrays hfirst others rest
    rw [ofValue?_of_promisesClauses hpromise, mapM_map_eq_ok Clause.ofValue?_arrayOfArrays]
    rfl

theorem StopsAtCondition.ofValue?_eq {bad raw : Value} (h : StopsAtCondition bad raw) :
    ofValue? raw = .error (.conditionNotArray bad) := by
  cases h with
  | @inClause conditions after hpromise hbad =>
    rw [ofValue?_of_promisesClause hpromise, Clause.ofValue?_first_error conditions hbad]
    rfl
  | @inClauses clauses conditions behind after hpromise hbad =>
    have herror := Clause.ofValue?_first_error conditions hbad behind
    rw [ofValue?_of_promisesClauses hpromise,
      mapM_first_error Clause.ofValue?_arrayOfArrays clauses herror]
    rfl

theorem Refuses.ofValue?_eq {raw : Value} {e : ShapeError} (h : Refuses raw e) :
    ofValue? raw = .error e := by
  cases h with
  | notArray hnull harray =>
    cases raw with
    | null => exact absurd rfl hnull
    | array items => cases harray
    | _ => rfl
  | unrecognized hne hcondition hclause hclauses =>
    exact ofValue?_of_no_promise hne hcondition hclause hclauses
  | @clause clauses bad after hpromise hbad =>
    have herror := Clause.ofValue?_of_items?_eq_none hbad
    rw [ofValue?_of_promisesClauses hpromise,
      mapM_first_error Clause.ofValue?_arrayOfArrays clauses herror]
    rfl
  | condition hstops => exact hstops.ofValue?_eq

theorem ofValue?_eq_ok_iff {raw : Value} {d : Domain} : ofValue? raw = .ok d ↔ Reads raw d := by
  refine ⟨fun hok => ?_, Reads.ofValue?_eq⟩
  rcases reads_or_refuses raw with ⟨d', hreads⟩ | ⟨e, hrefuses⟩
  · rw [hreads.ofValue?_eq] at hok
    cases hok
    exact hreads
  · rw [hrefuses.ofValue?_eq] at hok
    cases hok

theorem ofValue?_eq_error_iff {raw : Value} {e : ShapeError} :
    ofValue? raw = .error e ↔ Refuses raw e := by
  refine ⟨fun herror => ?_, Refuses.ofValue?_eq⟩
  rcases reads_or_refuses raw with ⟨d, hreads⟩ | ⟨e', hrefuses⟩
  · rw [hreads.ofValue?_eq] at herror
    cases herror
  · rw [hrefuses.ofValue?_eq] at herror
    cases herror
    exact hrefuses

/-- **`ofValue?_grammar`** — a value is read exactly in the shapes of the grammar and as the domains
that these stand for, and it is refused exactly for the reasons given. The error is one about a
condition just where a clause or a list of clauses is promised and the first item in reading order
that should be an array and is none stands for a condition. -/
theorem ofValue?_grammar (raw : Value) :
    (∀ d, ofValue? raw = .ok d ↔ Reads raw d)
      ∧ (∀ e, ofValue? raw = .error e ↔ Refuses raw e)
      ∧ ((∃ e, ofValue? raw = .error e ∧ e.isCondition = true) ↔
          ∃ bad, StopsAtCondition bad raw) := by
  refine ⟨fun _ => ofValue?_eq_ok_iff, fun _ => ofValue?_eq_error_iff, ?_⟩
  constructor
  · rintro ⟨e, herror, hcondition⟩
    -- of the reasons only one is about a condition
    cases ofValue?_eq_error_iff.mp herror with
    | condition hstops => exact ⟨_, hstops⟩
    | _ => cases hcondition
  · rintro ⟨bad, hstops⟩
    exact ⟨_, hstops.ofValue?_eq, rfl⟩

/-- Three items with a token among them are a condition, whatever the first of them looks like. -/
example (c : Value) :
    Reads (.array [.array [c, .string "=", c], .string "in", c])
      ⟨[⟨[⟨.array [c, .string "=", c], .isIn, c⟩]⟩]⟩ :=
  ofValue?_eq_ok_iff.mp rfl

end Domain

end DomainFilter
