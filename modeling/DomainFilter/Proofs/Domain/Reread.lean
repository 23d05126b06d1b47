/-
# DomainFilter.Proofs.Domain.Reread — the array form of a domain read back

Reading back the array form of a condition keeps its operand, gives the operator that its token
names and turns a null value into the string `null`: that is `Condition.reread`. Of a domain all
conditions come back that way or none does, because only the first condition of the first clause
decides the shape of the array (`Domain.Recognized`).

* §A `reread`, what it leaves as it is, and that it changes nothing the second time.
* §B **`ofValue_toValue`** — a domain whose leading condition has a supported token is read back as
  `Domain.reread`, any other as the empty domain.
* §C `Domain.Readable` holds of whatever is read from a value, so a domain that has been read once
  is never read back as the empty domain by mistake.
* §D `Domain.Canonical` and `Domain.Spelt`: two kinds of domains that `reread` leaves alone, and
  **`ofValue_toValue_eq_self_iff`**, which domains at all are canonical.
-/
import DomainFilter.Proofs.Domain.Conditions
import DomainFilter.Proofs.Domain.Grammar

namespace DomainFilter

/-! ## §A Conditions, clauses and domains read back -/

/-- The condition that the array form of a condition is read as. -/
def Condition.reread (c : Condition) : Condition where
  operand := c.operand
  operator := .ofToken c.operator.token
  value := writtenValue c.value

/-- The clause that the array form of a clause is read as. -/
def Clause.reread (clause : Clause) : Clause := clause.mapConditions Condition.reread

/-- A domain with each condition as its array form is read. -/
def Domain.reread (d : Domain) : Domain := d.mapConditions Condition.reread

/-- An unsupported operator with the text of a supported token. No token is read as it, and as it is
written it is that token. -/
def Operator.isDisguised : Operator → Bool
  | .unsupported token => isKnown token
  | _ => false

theorem Operator.ofToken_token {operator : Operator} (h : operator.isDisguised = false) :
    ofToken operator.token = operator := by
  cases operator with
  | unsupported token => exact ofToken_of_not_isKnown h
  | _ => rfl

theorem Operator.isDisguised_ofToken (token : String) : (ofToken token).isDisguised = false := by
  cases hknown : isKnown token with
  | false =>
    rw [ofToken_of_not_isKnown hknown]
    exact hknown
  | true =>
    cases hoperator : ofToken token with
    | unsupported u => exact absurd hoperator (ofToken_ne_unsupported hknown u)
    | _ => rfl

theorem Condition.writtenValue_of_ne_null {value : Value} (h : value ≠ .null) :
    writtenValue value = value := by
  cases value with
  | null => exact absurd rfl h
  | _ => rfl

theorem Condition.reread_eq_self {c : Condition} (hoperator : c.operator.isDisguised = false)
    (hvalue : c.value ≠ .null) : c.reread = c := by
  rw [reread, Operator.ofToken_token hoperator, writtenValue_of_ne_null hvalue]

theorem Condition.reread_eq_self_iff {c : Condition} :
    c.reread = c ↔ c.operator.isDisguised = false ∧ c.value ≠ .null := by
  constructor
  · intro h
    constructor
    · rw [← h]
      exact Operator.isDisguised_ofToken c.operator.token
    · intro hnull
      have hwritten : writtenValue c.value = c.value := congrArg Condition.value h
      rw [hnull] at hwritten
      cases hwritten
  · rintro ⟨hoperator, hvalue⟩
    exact reread_eq_self hoperator hvalue

theorem Condition.writtenValue_writtenValue (value : Value) :
    writtenValue (writtenValue value) = writtenValue value := by
  cases value <;> rfl

theorem Condition.reread_reread (c : Condition) : c.reread.reread = c.reread := by
  simp only [reread, Operator.token_ofToken, writtenValue_writtenValue]

theorem Domain.reread_reread (d : Domain) : d.reread.reread = d.reread := by
  rw [reread, reread, mapConditions_mapConditions]
  exact congrArg d.mapConditions (funext Condition.reread_reread)

theorem Condition.toValue_reread (c : Condition) : c.reread.toValue = c.toValue := by
  simp only [toValue, reread, Operator.token_ofToken, writtenValue_writtenValue]

theorem Clause.toValue_reread (clause : Clause) : clause.reread.toValue = clause.toValue := by
  simp only [toValue, reread, mapConditions, List.map_map, Function.comp_def,
    Condition.toValue_reread]

theorem Domain.clauses_reread (d : Domain) : d.reread.clauses = d.clauses.map Clause.reread := rfl

/-- What is lost on the way back is what the array form does not show. -/
theorem Domain.toValue_reread (d : Domain) : d.reread.toValue = d.toValue := by
  simp only [toValue, clauses_reread, List.map_map, Function.comp_def, Clause.toValue_reread]

/-! ## §B Which shape the array form has -/

/-- The leading condition, which decides the shape of the array form, is there and has a supported
token. -/
def Domain.Recognized (d : Domain) : Prop :=
  ∃ c, d.leading? = some c ∧ Operator.isKnown c.operator.token = true

theorem Clause.isConditionArray_toValue (clause : Clause) :
    clause.toValue.isConditionArray = false := by
  rw [toValue, Value.isConditionArray_eq_false_iff]
  exact Value.not_isConditionItems_arrays
    (fun c : Condition => [c.operand, .string c.operator.token, Condition.writtenValue c.value])
    clause.conditions

theorem Domain.isConditionArray_toValue (d : Domain) : d.toValue.isConditionArray = false := by
  rw [toValue, Value.isConditionArray_eq_false_iff]
  exact Value.not_isConditionItems_arrays
    (fun clause : Clause => clause.conditions.map Condition.toValue) d.clauses

theorem Clause.ofValue?_toValue (clause : Clause) :
    ofValue? clause.toValue = .ok clause.reread := by
  have hread : ∀ c : Condition, Condition.ofValue? c.toValue = .ok c.reread := fun _ => rfl
  rw [toValue, ofValue?, ofItems?, mapM_map_eq_ok hread]
  rfl

namespace Domain

theorem startsWithCondition_toValue_iff {clause : Clause} {rest : List Clause} :
    clause.toValue.startsWithCondition = true ↔ Recognized ⟨clause :: rest⟩ := by
  obtain ⟨conditions⟩ := clause
  cases conditions with
  | nil => simp [Clause.toValue, Value.startsWithCondition, Recognized, leading?]
  | cons c _ =>
    simp [Clause.toValue, Condition.toValue, Value.startsWithCondition, Value.isConditionArray,
      Recognized, leading?]

/-- Of the three shapes only that of a list of clauses is left, and only if the first clause starts
with a condition. -/
theorem ofValue?_toValue_cons (clause : Clause) (rest : List Clause) :
    ofValue? (toValue ⟨clause :: rest⟩) =
      if clause.toValue.startsWithCondition then .ok (reread ⟨clause :: rest⟩)
      else .error (.unrecognized (toValue ⟨clause :: rest⟩)) := by
  have hwhole := isConditionArray_toValue ⟨clause :: rest⟩
  have hread := mapM_map_eq_ok Clause.ofValue?_toValue (clause :: rest)
  -- neither the whole nor the first clause is a condition array, and all clauses are arrays
  simp only [toValue, List.map_cons] at hwhole hread
  simp only [toValue, List.map_cons, ofValue?, hwhole, clause.isConditionArray_toValue, hread,
    Bool.false_eq_true, if_false]
  rfl

/-- **`ofValue?_toValue`** — a domain led by a supported token is read back condition by
condition. -/
theorem ofValue?_toValue {d : Domain} (h : d.Recognized) : ofValue? d.toValue = .ok d.reread := by
  obtain ⟨clauses⟩ := d
  cases clauses with
  | nil => simp [Recognized, leading?] at h
  | cons clause rest =>
    rw [ofValue?_toValue_cons, if_pos (startsWithCondition_toValue_iff.mpr h)]

theorem ofValue_toValue {d : Domain} (h : d.Recognized) : ofValue d.toValue = d.reread := by
  rw [ofValue, ofValue?_toValue h]

/-- Without a supported token in the lead nothing is read back. -/
theorem ofValue_toValue_of_not_recognized {d : Domain} (h : ¬ d.Recognized) :
    ofValue d.toValue = empty := by
  obtain ⟨clauses⟩ := d
  cases clauses with
  | nil => rfl
  | cons clause rest =>
    rw [ofValue, ofValue?_toValue_cons, if_neg fun hs => h (startsWithCondition_toValue_iff.mp hs)]

end Domain

/-! ## §C What has been read once -/

/-- No clauses, or a supported token in the lead: what `Domain.ofValue` can read back. -/
def Domain.Readable (d : Domain) : Prop := d.clauses = [] ∨ d.Recognized

theorem Condition.isKnown_ofItems {items : List Value} (h : Value.IsConditionItems items) :
    Operator.isKnown (ofItems items).operator.token = true := by
  obtain ⟨-, token, htoken, hsecond⟩ := h
  have hoperator : (ofItems items).operator = .ofToken token := by
    rw [ofItems, hsecond]
    rfl
  rw [hoperator, Operator.token_ofToken]
  exact List.contains_iff_mem.mpr htoken

namespace Domain

/-- In every shape of the grammar what leads is a condition array. -/
theorem Reads.readable {raw : Value} {d : Domain} (h : Reads raw d) : d.Readable := by
  cases h with
  | null => exact .inl rfl
  | nothing => exact .inl rfl
  | condition hitems => exact .inr ⟨_, rfl, Condition.isKnown_ofItems hitems⟩
  | clause hfirst => exact .inr ⟨_, rfl, Condition.isKnown_ofItems hfirst⟩
  | clauses hfirst => exact .inr ⟨_, rfl, Condition.isKnown_ofItems hfirst⟩

/-- **`readable_ofValue`** — whatever a domain is read from, its own array form is readable. -/
theorem readable_ofValue (raw : Value) : (ofValue raw).Readable := by
  cases hread : ofValue? raw with
  | error e =>
    rw [ofValue, hread]
    exact .inl rfl
  | ok d =>
    rw [ofValue, hread]
    exact (ofValue?_eq_ok_iff.mp hread).readable

/-- A readable domain is read back condition by condition, the empty one included. -/
theorem Readable.ofValue?_toValue {d : Domain} (h : d.Readable) :
    ofValue? d.toValue = .ok d.reread := by
  rcases h with hnil | hrecognized
  · obtain ⟨clauses⟩ := d
    cases hnil
    rfl
  · exact Domain.ofValue?_toValue hrecognized

theorem Readable.ofValue_toValue {d : Domain} (h : d.Readable) : ofValue d.toValue = d.reread := by
  rw [ofValue, h.ofValue?_toValue]

end Domain

/-! ## §D Domains that reading back leaves alone -/

/-- The array form of the domain is read back as the domain itself. -/
def Domain.Canonical (d : Domain) : Prop := ofValue d.toValue = d

/-- The operator is one that some token names, and the value is not null. -/
def Condition.Spelt (c : Condition) : Prop :=
  (∃ token, c.operator = .ofToken token) ∧ c.value ≠ .null

/-- Every condition is spelt. The clauses are any: none, empty ones, led by any operator. -/
def Domain.Spelt (d : Domain) : Prop := ∀ c ∈ d.conditions, c.Spelt

theorem Condition.Spelt.reread_eq {c : Condition} (h : c.Spelt) : c.reread = c := by
  obtain ⟨⟨token, htoken⟩, hvalue⟩ := h
  have hoperator : c.operator.isDisguised = false := by
    rw [htoken, Operator.isDisguised_ofToken]
  exact reread_eq_self hoperator hvalue

namespace Domain

theorem Spelt.reread_eq {d : Domain} (h : d.Spelt) : d.reread = d :=
  mapConditions_eq_self_iff.mpr fun c hc => (h c hc).reread_eq

theorem Canonical.readable {d : Domain} (h : d.Canonical) : d.Readable := by
  rw [← h]
  exact readable_ofValue d.toValue

theorem Canonical.reread_eq {d : Domain} (h : d.Canonical) : d.reread = d := by
  rw [← h.readable.ofValue_toValue]
  exact h

/-- A domain that can be read back at all comes back as itself exactly if each of its conditions
does. -/
theorem Readable.canonical_iff {d : Domain} (h : d.Readable) :
    d.Canonical ↔ ∀ c ∈ d.conditions, c.operator.isDisguised = false ∧ c.value ≠ .null := by
  rw [Canonical, h.ofValue_toValue, reread, mapConditions_eq_self_iff]
  exact forall₂_congr fun c _ => Condition.reread_eq_self_iff

/-- A domain that was read is the one its array form is read as exactly if it has no disguised
operator and no null value. -/
theorem canonical_ofValue_iff (raw : Value) :
    (ofValue raw).Canonical ↔
      ∀ c ∈ (ofValue raw).conditions, c.operator.isDisguised = false ∧ c.value ≠ .null :=
  (readable_ofValue raw).canonical_iff

/-- **`ofValue_toValue_eq_self_iff`** — of all domains, those with empty clauses and any operators
included, just these are read back from their array form as they were: the domain without clauses,
and those that start with a condition of a supported token and have neither a disguised operator
nor a null value anywhere. -/
theorem ofValue_toValue_eq_self_iff (d : Domain) :
    ofValue d.toValue = d ↔
      d.clauses = [] ∨
        ((∃ c, d.leading? = some c ∧ Operator.isKnown c.operator.token = true) ∧
          ∀ c ∈ d.conditions, c.operator.isDisguised = false ∧ c.value ≠ .null) := by
  constructor
  · intro hsame
    have hcanonical : d.Canonical := hsame
    -- what comes back has been read, so there is a lead or nothing at all
    rcases hcanonical.readable with hnil | hrecognized
    · exact .inl hnil
    · exact .inr ⟨hrecognized, hcanonical.readable.canonical_iff.mp hcanonical⟩
  · rintro (hnil | ⟨hrecognized, hconditions⟩)
    · have hnone : ∀ c ∈ d.conditions, c.operator.isDisguised = false ∧ c.value ≠ .null := by
        intro c hc
        rw [conditions, hnil] at hc
        cases hc
      exact (Readable.canonical_iff (.inl hnil)).mpr hnone
    · exact (Readable.canonical_iff (.inr hrecognized)).mpr hconditions

/-- Anywhere else an empty clause stays. In the first place it takes the others with it. -/
example (c : Condition) : ofValue (toValue ⟨[⟨[]⟩, ⟨[c]⟩]⟩) = empty := rfl

end Domain

end DomainFilter
