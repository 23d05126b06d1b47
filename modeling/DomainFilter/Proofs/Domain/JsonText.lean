/-
# DomainFilter.Proofs.Domain.JsonText — a domain is read back from its JSON text

* §A `Value.Legible`: the JSON of the value fits and loses none of its numbers.
* §B **`Domain.ofValue_unsignZeros`** — reading a domain from a value does not see the signs of
  zeros. What is read commutes with dropping them, shape by shape.
* §C **`Domain.ofJsonText?_jsonText`** — a canonical domain of legible values is read back from its
  text but for the signs of its zeros, so with its verdicts.

BOUNDARY: of a domain that is not legible, something else may be read or nothing. The sign of a zero
is lost because a zero is written as a whole number.
-/
import DomainFilter.Proofs.Json.ReadBack
import DomainFilter.Proofs.Value.Encodings
import DomainFilter.Proofs.Domain.Reread
import DomainFilter.Proofs.Verdict.Equality

namespace DomainFilter

/-! ## §A Legible values -/

namespace Value

open Json (ReadsBack Fits)

/-- The value has room in so many levels of nesting, its objects are in key order, and each of its
numbers is written whole or read back. -/
inductive Legible : Nat → Value → Prop
  | null {levels : Nat} : Legible levels .null
  | bool {levels : Nat} (b : Bool) : Legible levels (.bool b)
  | number {levels : Nat} {x : Binary64} (hreads : x.exactInt? ≠ none ∨ ReadsBack x) :
      Legible levels (.number x)
  | string {levels : Nat} (s : String) : Legible levels (.string s)
  | array {levels : Nat} {items : List Value} (hitems : ∀ item ∈ items, Legible levels item) :
      Legible (levels + 1) (.array items)
  | object {levels : Nat} {fields : Record} (hsorted : Fields.Sorted fields)
      (hfields : ∀ field ∈ fields, Legible levels field.2) : Legible (levels + 1) (.object fields)

theorem itemsAllFinite_iff {items : List Value} :
    itemsAllFinite items = true ↔ ∀ item ∈ items, item.allFinite = true := by
  induction items with
  | nil => simp [itemsAllFinite]
  | cons item items ih => simp [itemsAllFinite, ih]

theorem fieldsAllFinite_iff {fields : Record} :
    fieldsAllFinite fields = true ↔ ∀ field ∈ fields, field.2.allFinite = true := by
  induction fields with
  | nil => simp [fieldsAllFinite]
  | cons field fields ih => simp [fieldsAllFinite, ih]

/-- A legible value has no number that would be written as null. -/
theorem Legible.allFinite {levels : Nat} {value : Value} (h : Legible levels value) :
    value.allFinite = true := by
  induction h with
  | null => rfl
  | bool b => rfl
  | number hnumber =>
    rcases hnumber with hwhole | hreads
    · obtain ⟨n, hn⟩ := Option.ne_none_iff_exists'.mp hwhole
      exact Binary64.isFinite_of_exactInt? hn
    · exact hreads.isFinite
  | string s => rfl
  | array _ ih => exact itemsAllFinite_iff.mpr ih
  | object _ _ ih => exact fieldsAllFinite_iff.mpr ih

theorem natAbs_le_of_exactInt? {x : Binary64} {n : Int} (h : x.exactInt? = some n) :
    n.natAbs ≤ Binary64.greatestExact := by
  cases x with
  | nan => cases h
  | signed negative m =>
    simp only [Binary64.exactInt?] at h
    split at h
    case isTrue hexact =>
      have hcast : (Binary64.units m : Int) / Binary64.unitsOfOne
          = (Binary64.units m / Binary64.unitsOfOne : Nat) := (Int.natCast_ediv _ _).symm
      rw [← Option.some.inj h, hcast]
      split
      · rw [Int.natAbs_neg, Int.natAbs_natCast]
        exact hexact.2
      · rw [Int.natAbs_natCast]
        exact hexact.2
    case isFalse => cases h

theorem fits_numberJson {levels : Nat} {x : Binary64}
    (h : x.exactInt? ≠ none ∨ ReadsBack x) : Fits levels (numberJson x) := by
  rw [numberJson]
  cases hwhole : x.exactInt? with
  | some n =>
    have hbound := natAbs_le_of_exactInt? hwhole
    have hleast : Binary64.greatestExact ≤ Nat.pow 2 63 := by decide
    have hgreatest : Binary64.greatestExact ≤ Json.greatestWord := by decide
    exact .whole (by omega) (by omega)
  | none =>
    have hreads : ReadsBack x := h.resolve_left fun hne => hne hwhole
    show Fits levels (realJson x)
    rw [realJson, if_pos hreads.isFinite]
    exact .real hreads

/-- **`Legible.fits`** — the JSON of a legible value fits. -/
theorem Legible.fits {levels : Nat} {value : Value} (h : Legible levels value) :
    Fits levels value.toJson := by
  induction h with
  | null => exact .null
  | bool b => exact .bool b
  | number hnumber => exact fits_numberJson hnumber
  | string s => exact .string s
  | array _ ih =>
    rw [toJson, encode, encodeItems_eq_map]
    exact .array (List.forall_mem_map.mpr ih)
  | object hsorted _ ih =>
    rw [toJson, encode, encodeFields_eq_map]
    exact .object ((Fields.sorted_map_values _).mpr hsorted) (List.forall_mem_map.mpr ih)

/-- What is decoded of a value without infinite numbers is the value but for the signs of zeros. -/
theorem unsignZeros_ofJson_toJson {value : Value} (h : value.allFinite = true) :
    (ofJson value.toJson).unsignZeros = value.unsignZeros :=
  (equals_iff.mp ((equals_ofJson value).2.2 h).1).1

/-! ## §B Domains and the signs of zeros -/

theorem isConditionItems_map_unsignZeros {items : List Value} :
    IsConditionItems (items.map unsignZeros) ↔ IsConditionItems items := by
  have hsecond : ∀ token,
      (items.map unsignZeros)[1]? = some (.string token) ↔ items[1]? = some (.string token) := by
    intro token
    rw [List.getElem?_map]
    cases items[1]? with
    | none => simp
    | some second => cases second <;> simp [unsignZeros]
  simp only [IsConditionItems, List.length_map, hsecond]

theorem isConditionArray_unsignZeros (v : Value) :
    v.unsignZeros.isConditionArray = v.isConditionArray := by
  cases v with
  | array items =>
    rw [Bool.eq_iff_iff, unsignZeros, itemsUnsigned_eq_map, isConditionArray_iff,
      isConditionArray_iff, isConditionItems_map_unsignZeros]
  | _ => rfl

theorem startsWithCondition_unsignZeros (v : Value) :
    v.unsignZeros.startsWithCondition = v.startsWithCondition := by
  cases v with
  | array items =>
    cases items with
    | nil => rfl
    | cons first rest => exact isConditionArray_unsignZeros first
  | _ => rfl

end Value

theorem Condition.ofItems_map_unsignZeros (items : List Value) :
    ofItems (items.map Value.unsignZeros) = (ofItems items).unsignZeros := by
  have hplace : ∀ place : Nat, (items.map Value.unsignZeros)[place]?.getD .null
      = (items[place]?.getD .null).unsignZeros := by
    intro place
    rw [List.getElem?_map]
    cases items[place]? <;> rfl
  have hoperator : operatorOf (items.map Value.unsignZeros)[1]? = operatorOf items[1]? := by
    rw [List.getElem?_map]
    cases items[1]? with
    | none => rfl
    | some second =>
      have htext : second.unsignZeros.toText = second.toText :=
        congrArg String.ofList second.text_unsignZeros
      cases second with
      | string token => rfl
      | _ => exact congrArg Operator.unsupported htext
  rw [ofItems, ofItems, unsignZeros, hplace, hplace, hoperator]

section ReadAll

variable {α β ε : Type} {read : α → Except ε β}

theorem toOption_mapM_cons (x : α) (xs : List α) :
    ((x :: xs).mapM read).toOption
      = (read x).toOption.bind fun y => (xs.mapM read).toOption.map (y :: ·) := by
  rw [List.mapM_cons]
  cases read x with
  | error e => rfl
  | ok y => cases xs.mapM read <;> rfl

/-- Where reading each item commutes with a change, reading all of them does. -/
theorem toOption_mapM_map {f : α → α} {g : β → β}
    (h : ∀ x, (read (f x)).toOption = (read x).toOption.map g) (xs : List α) :
    ((xs.map f).mapM read).toOption = (xs.mapM read).toOption.map (List.map g) := by
  induction xs with
  | nil => rfl
  | cons x xs ih =>
    rw [List.map_cons, toOption_mapM_cons, toOption_mapM_cons, h, ih]
    cases (read x).toOption with
    | none => rfl
    | some y => cases (xs.mapM read).toOption <;> rfl

theorem toOption_map {γ : Type} (f : β → γ) (result : Except ε β) :
    (result.map f).toOption = result.toOption.map f := by
  cases result <;> rfl

end ReadAll

theorem Condition.toOption_ofValue?_unsignZeros (raw : Value) :
    (ofValue? raw.unsignZeros).toOption = (ofValue? raw).toOption.map unsignZeros := by
  cases raw with
  | array items =>
    rw [Value.unsignZeros, Value.itemsUnsigned_eq_map, ofValue?, ofValue?, ofItems_map_unsignZeros]
    rfl
  | _ => rfl

theorem Clause.toOption_ofItems?_unsignZeros (items : List Value) :
    (ofItems? (items.map Value.unsignZeros)).toOption
      = (ofItems? items).toOption.map (mapConditions Condition.unsignZeros) := by
  rw [ofItems?, ofItems?, toOption_map, toOption_map,
    toOption_mapM_map Condition.toOption_ofValue?_unsignZeros, Option.map_map, Option.map_map]
  rfl

theorem Clause.toOption_ofValue?_unsignZeros (raw : Value) :
    (ofValue? raw.unsignZeros).toOption
      = (ofValue? raw).toOption.map (mapConditions Condition.unsignZeros) := by
  cases raw with
  | array items =>
    rw [Value.unsignZeros, Value.itemsUnsigned_eq_map]
    exact toOption_ofItems?_unsignZeros items
  | _ => rfl

namespace Domain

theorem toOption_ofValue?_unsignZeros (raw : Value) :
    (ofValue? raw.unsignZeros).toOption = (ofValue? raw).toOption.map unsignZeros := by
  cases raw with
  | array items =>
    cases items with
    | nil => rfl
    | cons first rest =>
      have hwhole := (Value.array (first :: rest)).isConditionArray_unsignZeros
      have hitems : (Value.array (first :: rest)).unsignZeros
          = .array (first.unsignZeros :: rest.map Value.unsignZeros) := by
        rw [Value.unsignZeros, Value.itemsUnsigned_eq_map, List.map_cons]
      rw [hitems] at hwhole ⊢
      rw [ofValue?, ofValue?, hwhole, Value.isConditionArray_unsignZeros,
        Value.startsWithCondition_unsignZeros, ← List.map_cons]
      split
      · rw [Condition.ofItems_map_unsignZeros]
        rfl
      · split
        · rw [toOption_map, toOption_map, Clause.toOption_ofItems?_unsignZeros, Option.map_map,
            Option.map_map]
          rfl
        · split
          · rw [toOption_map, toOption_map,
              toOption_mapM_map Clause.toOption_ofValue?_unsignZeros, Option.map_map,
              Option.map_map]
            rfl
          · rfl
  | _ => rfl

theorem ofValue_eq_getD (raw : Value) : ofValue raw = (ofValue? raw).toOption.getD empty := by
  rw [ofValue]
  cases ofValue? raw <;> rfl

/-- **`ofValue_unsignZeros`** — reading a domain does not see the signs of zeros. -/
theorem ofValue_unsignZeros (raw : Value) :
    ofValue raw.unsignZeros = (ofValue raw).unsignZeros := by
  rw [ofValue_eq_getD, ofValue_eq_getD, toOption_ofValue?_unsignZeros]
  cases (ofValue? raw).toOption <;> rfl

/-! ## §C Domains in JSON texts -/

/-- **`ofJsonText?_text`** — the JSON text of a legible value has the domain of the value but for the
signs of zeros. -/
theorem ofJsonText?_text {raw : Value} (h : raw.Legible Json.depthLimit) :
    ∃ e, ofJsonText? raw.toJson.text = some e ∧ e.unsignZeros = (ofValue raw).unsignZeros := by
  have hread : Json.ofText? raw.toJson.text = some raw.toJson := Json.ofText?_text h.fits
  refine ⟨ofValue (.ofJson raw.toJson), ?_, ?_⟩
  · rw [ofJsonText?, hread, Option.map_some]
  · rw [← ofValue_unsignZeros, Value.unsignZeros_ofJson_toJson h.allFinite, ofValue_unsignZeros]

/-- Both sides of every condition are legible, with three levels less than a text may have: those of
the domain, of its clauses and of their conditions. -/
def Legible (d : Domain) : Prop :=
  ∀ c ∈ d.conditions,
    c.operand.Legible (Json.depthLimit - 3) ∧ c.value.Legible (Json.depthLimit - 3)

theorem Legible.toValue {d : Domain} (h : d.Legible) : d.toValue.Legible Json.depthLimit :=
  toValue_of_parts (fun _ => .string) .array h

/-- A domain that can be read back at all is read back from its text as it is from its array form,
but for the signs of zeros. -/
theorem Readable.ofJsonText?_jsonText {d : Domain} (h : d.Readable) (hlegible : d.Legible) :
    ∃ e, ofJsonText? d.jsonText = some e ∧ e.unsignZeros = d.reread.unsignZeros := by
  rw [← h.ofValue_toValue]
  exact ofJsonText?_text hlegible.toValue

/-- **`ofJsonText?_jsonText`** — the domain of the text of a canonical domain is that domain but for
the signs of zeros, and has its verdicts: evaluated, tested, and evaluated after it is parsed. -/
theorem ofJsonText?_jsonText {d : Domain} (h : d.Canonical) (hlegible : d.Legible) :
    ∃ e, ofJsonText? d.jsonText = some e ∧ e.unsignZeros = d.unsignZeros ∧
      ∀ ctx, e.evaluate ctx = d.evaluate ctx ∧ e.test = d.test
        ∧ (e.parse ctx >>= evaluate ctx) = (d.parse ctx >>= evaluate ctx) := by
  obtain ⟨e, hread, hsame⟩ := h.readable.ofJsonText?_jsonText hlegible
  rw [h.reread_eq] at hsame
  exact ⟨e, hread, hsame, fun ctx => verdicts_of_unsignZeros_eq hsame rfl⟩

/-- A tenth is written with one digit, one place behind the point. -/
example : Legible ⟨[⟨[⟨.string "rate", .le, .number .oneTenth⟩]⟩]⟩ := by
  have hreads : Json.ReadsBack .oneTenth :=
    Json.readsBack_of_short (by decide +kernel) ⟨by decide +kernel, by decide +kernel⟩
  intro c hc
  obtain rfl := List.mem_singleton.mp hc
  exact ⟨.string _, .number (.inr hreads)⟩

end Domain

end DomainFilter
