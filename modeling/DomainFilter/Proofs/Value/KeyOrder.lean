/-
# DomainFilter.Proofs.Value.KeyOrder — fields stand in key order

Objects are compared pair by pair, which is right because whatever builds one puts every field in
its place: the names are in increasing order, each of them once.

* §A `put` keeps the order and writes one field; of pairs written one after the other the last one
  of a name counts. **`forall₂_iff_get?`** — in key order, to compare pair by pair is to compare
  under every name.
* §B **`Value.equals_object_iff`** — so it is for well-formed objects.
* §C **`Value.wellFormed_ofJson`** and **`Value.wellFormed_encode`** — JSON decodes to well-formed
  values and these are encoded as well-formed JSON.
-/
import Mathlib.Data.String.Basic
import Mathlib.Data.List.Forall2
import Mathlib.Data.List.Induction
import DomainFilter.Value.Json

namespace DomainFilter

/-! ## §A Fields -/

namespace Fields

variable {α : Type} {key name other : String} {value old : α} {pair : String × α}
  {fields pairs rest : Fields α}

theorem sorted_nil : Sorted ([] : Fields α) := List.Pairwise.nil

theorem sorted_cons_iff :
    Sorted (pair :: rest) ↔ (∀ later ∈ rest, pair.1 < later.1) ∧ Sorted rest := by
  simp only [Sorted, keys, List.map_cons, List.pairwise_cons, List.forall_mem_map]

/-! ### Putting -/

/-- A field of the result is the one just put, or was there before. -/
theorem eq_or_mem_of_mem_put (h : pair ∈ put key value fields) :
    pair = (key, value) ∨ pair ∈ fields := by
  induction fields with
  | nil => exact .inl (List.mem_singleton.mp h)
  | cons first rest ih =>
    obtain ⟨name, old⟩ := first
    simp only [put] at h
    split at h
    · exact List.mem_cons.mp h
    · split at h
      · rcases List.mem_cons.mp h with hput | hrest
        · exact .inl hput
        · exact .inr (List.mem_cons_of_mem _ hrest)
      · rcases List.mem_cons.mp h with hfirst | hrest
        · exact .inr (hfirst ▸ List.mem_cons_self)
        · rcases ih hrest with hput | hold
          · exact .inl hput
          · exact .inr (List.mem_cons_of_mem _ hold)

/-- **`sorted_put`** — putting a field keeps the order. -/
theorem sorted_put (h : Sorted fields) (key : String) (value : α) :
    Sorted (put key value fields) := by
  induction fields with
  | nil => exact sorted_cons_iff.mpr ⟨by simp, sorted_nil⟩
  | cons first rest ih =>
    obtain ⟨name, old⟩ := first
    obtain ⟨hfirst, hrest⟩ := sorted_cons_iff.mp h
    simp only [put]
    split
    case isTrue hless =>
      refine sorted_cons_iff.mpr ⟨?_, h⟩
      intro later hlater
      rcases List.mem_cons.mp hlater with rfl | hlater
      · exact hless
      · exact hless.trans (hfirst later hlater)
    case isFalse hnotLess =>
      split
      case isTrue heq =>
        rw [heq]
        exact sorted_cons_iff.mpr ⟨hfirst, hrest⟩
      case isFalse hne =>
        refine sorted_cons_iff.mpr ⟨?_, ih hrest⟩
        intro later hlater
        rcases eq_or_mem_of_mem_put hlater with rfl | hlater
        · exact lt_of_le_of_ne (not_lt.mp hnotLess) (Ne.symm hne)
        · exact hfirst later hlater

/-- A field just put is found, and the fields of other names are left alone. -/
theorem get?_put (key other : String) (value : α) (fields : Fields α) :
    get? other (put key value fields) = if key = other then some value else get? other fields := by
  induction fields with
  | nil => rfl
  | cons first rest ih =>
    obtain ⟨name, old⟩ := first
    simp only [put]
    split
    · rfl
    · split
      case isTrue heq =>
        subst heq
        simp only [get?]
        split <;> rfl
      case isFalse hne =>
        simp only [get?, ih]
        split
        case isTrue hname =>
          rw [if_neg fun hkey => hne (hkey.trans hname.symm)]
        case isFalse => rfl

/-! ### Putting one after the other -/

theorem sorted_foldl_put (h : Sorted fields) (pairs : List (String × α)) :
    Sorted (pairs.foldl (fun fields pair => put pair.1 pair.2 fields) fields) := by
  induction pairs generalizing fields with
  | nil => exact h
  | cons pair pairs ih => exact ih (sorted_put h pair.1 pair.2)

/-- **`sorted_ofPairs`** — whatever pairs are written, the fields are in key order. -/
theorem sorted_ofPairs (pairs : List (String × α)) : Sorted (ofPairs pairs) :=
  sorted_foldl_put sorted_nil pairs

theorem ofPairs_concat (pairs : List (String × α)) (pair : String × α) :
    ofPairs (pairs ++ [pair]) = put pair.1 pair.2 (ofPairs pairs) := by
  rw [ofPairs, List.foldl_append]
  rfl

/-- Of pairs with one name the last one counts. -/
theorem get?_ofPairs (key : String) (pairs : List (String × α)) :
    get? key (ofPairs pairs) = get? key pairs.reverse := by
  induction pairs using List.reverseRecOn with
  | nil => rfl
  | append_singleton pairs pair ih =>
    rw [ofPairs_concat, get?_put, ih, List.reverse_concat, get?]

theorem mem_of_mem_ofPairs {pairs : List (String × α)} (h : pair ∈ ofPairs pairs) :
    pair ∈ pairs := by
  induction pairs using List.reverseRecOn with
  | nil => exact h
  | append_singleton pairs last ih =>
    rw [ofPairs_concat] at h
    rw [List.mem_append]
    rcases eq_or_mem_of_mem_put h with rfl | hmem
    · exact .inr (List.mem_singleton_self _)
    · exact .inl (ih hmem)

theorem put_of_forall_lt (h : ∀ earlier ∈ fields, earlier.1 < key) (value : α) :
    put key value fields = fields ++ [(key, value)] := by
  induction fields with
  | nil => rfl
  | cons first rest ih =>
    obtain ⟨hfirst, hrest⟩ := List.forall_mem_cons.mp h
    rw [put, if_neg hfirst.not_gt, if_neg hfirst.ne', ih hrest, List.cons_append]

/-- **`ofPairs_of_sorted`** — fields in key order are written as they are. -/
theorem ofPairs_of_sorted (h : Sorted fields) : ofPairs fields = fields := by
  induction fields using List.reverseRecOn with
  | nil => rfl
  | append_singleton fields last ih =>
    have hsorted : (keys fields ++ [last.1]).Pairwise (· < ·) := by
      rwa [Sorted, keys, List.map_append] at h
    obtain ⟨hfields, -, hbefore⟩ := List.pairwise_append.mp hsorted
    have hlast : ∀ earlier ∈ fields, earlier.1 < last.1 := fun earlier hearlier =>
      hbefore _ (List.mem_map_of_mem hearlier) _ (List.mem_singleton_self _)
    rw [ofPairs_concat, ih hfields, put_of_forall_lt hlast]

/-! ### Finding -/

theorem mem_of_get?_eq_some (h : get? key fields = some value) : (key, value) ∈ fields := by
  induction fields with
  | nil => cases h
  | cons first rest ih =>
    simp only [get?] at h
    split at h
    case isTrue hname =>
      rw [← hname, ← Option.some.inj h]
      exact List.mem_cons_self
    case isFalse => exact List.mem_cons_of_mem _ (ih h)

theorem get?_eq_none_of_forall_lt (h : ∀ later ∈ fields, key < later.1) :
    get? key fields = none := by
  rw [Option.eq_none_iff_forall_ne_some]
  intro value hfound
  exact lt_irrefl _ (h _ (mem_of_get?_eq_some hfound))

theorem get?_cons_self (pair : String × α) (rest : Fields α) :
    get? pair.1 (pair :: rest) = some pair.2 := if_pos rfl

/-- No name comes before the first one. -/
theorem le_of_get?_ne_none (h : Sorted (pair :: rest)) (hfound : get? key (pair :: rest) ≠ none) :
    pair.1 ≤ key := by
  by_contra hbefore
  obtain ⟨hlater, -⟩ := sorted_cons_iff.mp h
  have hkey : key < pair.1 := not_le.mp hbefore
  apply hfound
  apply get?_eq_none_of_forall_lt
  rw [List.forall_mem_cons]
  exact ⟨hkey, fun later hmem => hkey.trans (hlater later hmem)⟩

section Related

variable {β : Type} (related : α → β → Prop) {xs : Fields α} {ys : Fields β}

theorem related_of_forall₂
    (h : List.Forall₂ (fun x y => x.1 = y.1 ∧ related x.2 y.2) xs ys) (key : String) :
    Option.Rel related (get? key xs) (get? key ys) := by
  induction h with
  | nil => exact .none
  | cons hfirst _ ih =>
    obtain ⟨hname, hvalue⟩ := hfirst
    simp only [get?, hname]
    split
    · exact .some hvalue
    · exact ih

/-- What is related under every name starts with the same name. -/
theorem eq_of_related {x : String × α} {y : String × β} (hxs : Sorted (x :: xs))
    (hys : Sorted (y :: ys))
    (h : ∀ key, Option.Rel related (get? key (x :: xs)) (get? key (y :: ys))) : x.1 = y.1 := by
  apply le_antisymm
  · apply le_of_get?_ne_none hxs
    intro hnone
    have hname := h y.1
    rw [hnone, get?_cons_self] at hname
    cases hname
  · apply le_of_get?_ne_none hys
    intro hnone
    have hname := h x.1
    rw [hnone, get?_cons_self] at hname
    cases hname

/-- **`forall₂_iff_get?`** — fields in key order are related pair by pair exactly if what is found
under each name is related. -/
theorem forall₂_iff_get? (hxs : Sorted xs) (hys : Sorted ys) :
    List.Forall₂ (fun x y => x.1 = y.1 ∧ related x.2 y.2) xs ys ↔
      ∀ key, Option.Rel related (get? key xs) (get? key ys) := by
  constructor
  · exact related_of_forall₂ related
  intro h
  -- the first pairs have one name, which stands nowhere behind them
  induction xs generalizing ys with
  | nil =>
    rcases ys with - | ⟨y, ys⟩
    · exact .nil
    · have hname := h y.1
      rw [get?_cons_self] at hname
      cases hname
  | cons x xs ih =>
    rcases ys with - | ⟨y, ys⟩
    · have hname := h x.1
      rw [get?_cons_self] at hname
      cases hname
    · have hname : x.1 = y.1 := eq_of_related related hxs hys h
      obtain ⟨hx, hxs⟩ := sorted_cons_iff.mp hxs
      obtain ⟨hy, hys⟩ := sorted_cons_iff.mp hys
      have hfirst := h x.1
      rw [get?_cons_self, hname, get?_cons_self] at hfirst
      refine .cons ⟨hname, Option.rel_some_some.mp hfirst⟩ (ih hxs hys ?_)
      intro key
      by_cases hkey : x.1 = key
      · subst hkey
        rw [get?_eq_none_of_forall_lt hx, get?_eq_none_of_forall_lt (hname ▸ hy)]
        exact .none
      · have hrest := h key
        rwa [get?, if_neg hkey, get?, if_neg (hname ▸ hkey)] at hrest

end Related

/-- The order is one of the names alone. -/
theorem sorted_map_values {β : Type} (f : α → β) :
    Sorted (fields.map fun field => (field.1, f field.2)) ↔ Sorted fields := by
  rw [Sorted, Sorted, keys, keys, List.map_map]
  rfl

end Fields

/-! ## §B Well-formed values -/

namespace Value

theorem wellFormed_array_iff {items : List Value} :
    (Value.array items).WellFormed ↔ ∀ item ∈ items, item.WellFormed := by
  constructor
  · intro h
    cases h with
    | array hitems => exact hitems
  · exact .array

theorem wellFormed_object_iff {fields : Record} :
    (Value.object fields).WellFormed ↔
      Fields.Sorted fields ∧ ∀ field ∈ fields, field.2.WellFormed := by
  constructor
  · intro h
    cases h with
    | object hsorted hfields => exact ⟨hsorted, hfields⟩
  · rintro ⟨hsorted, hfields⟩
    exact .object hsorted hfields

theorem fieldsEqual_iff_forall₂ {xs ys : Record} :
    fieldsEqual xs ys = true ↔
      List.Forall₂ (fun x y => x.1 = y.1 ∧ x.2.equals y.2 = true) xs ys := by
  induction xs generalizing ys with
  | nil => rcases ys with - | ⟨y, ys⟩ <;> simp [fieldsEqual]
  | cons x xs ih => rcases ys with - | ⟨y, ys⟩ <;> simp [fieldsEqual, ih]

/-- **`equals_object_iff`** — two well-formed objects are equal exactly if under every name both
have equal fields or neither has one. -/
theorem equals_object_iff {xs ys : Record} (hxs : (Value.object xs).WellFormed)
    (hys : (Value.object ys).WellFormed) :
    (Value.object xs).equals (.object ys) = true ↔
      ∀ key,
        Option.Rel (fun x y => x.equals y = true) (Fields.get? key xs) (Fields.get? key ys) := by
  obtain ⟨hxs, -⟩ := wellFormed_object_iff.mp hxs
  obtain ⟨hys, -⟩ := wellFormed_object_iff.mp hys
  rw [equals, fieldsEqual_iff_forall₂]
  exact Fields.forall₂_iff_get? (fun x y : Value => x.equals y = true) hxs hys

/-! ## §C JSON -/

theorem itemsOfJson_eq_map (items : List Json) : itemsOfJson items = items.map ofJson := by
  induction items with
  | nil => rfl
  | cons item items ih => rw [itemsOfJson, ih, List.map_cons]

theorem fieldsOfJson_eq_map (members : Fields Json) :
    fieldsOfJson members = members.map fun member => (member.1, ofJson member.2) := by
  induction members with
  | nil => rfl
  | cons member members ih => rw [fieldsOfJson, ih, List.map_cons]

theorem encodeItems_eq_map (number : Binary64 → Json) (items : List Value) :
    encodeItems number items = items.map (encode number) := by
  induction items with
  | nil => rfl
  | cons item items ih => rw [encodeItems, ih, List.map_cons]

theorem encodeFields_eq_map (number : Binary64 → Json) (fields : Record) :
    encodeFields number fields = fields.map fun field => (field.1, encode number field.2) := by
  induction fields with
  | nil => rfl
  | cons field fields ih => rw [encodeFields, ih, List.map_cons]

/-- **`wellFormed_ofJson`** — well-formed JSON stands for a well-formed value. -/
theorem wellFormed_ofJson {json : Json} (h : json.WellFormed) : (ofJson json).WellFormed := by
  induction h with
  | null => exact .null
  | bool b => exact .bool b
  | whole n => exact .number _
  | real x => exact .number x
  | string s => exact .string s
  | array _ ih =>
    rw [ofJson, itemsOfJson_eq_map]
    exact .array (List.forall_mem_map.mpr ih)
  | object hsorted _ ih =>
    rw [ofJson, fieldsOfJson_eq_map]
    exact .object ((Fields.sorted_map_values ofJson).mpr hsorted) (List.forall_mem_map.mpr ih)

/-- **`wellFormed_encode`** — and a well-formed value is encoded as well-formed JSON. -/
theorem wellFormed_encode {number : Binary64 → Json} (hnumber : ∀ x, (number x).WellFormed)
    {value : Value} (h : value.WellFormed) : (encode number value).WellFormed := by
  induction h with
  | null => exact .null
  | bool b => exact .bool b
  | number x => exact hnumber x
  | string s => exact .string s
  | array _ ih =>
    rw [encode, encodeItems_eq_map]
    exact .array (List.forall_mem_map.mpr ih)
  | object hsorted _ ih =>
    rw [encode, encodeFields_eq_map]
    exact .object ((Fields.sorted_map_values _).mpr hsorted) (List.forall_mem_map.mpr ih)

end Value

end DomainFilter