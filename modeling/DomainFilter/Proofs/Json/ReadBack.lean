/-
# DomainFilter.Proofs.Json.ReadBack — which JSON values are read back from their texts

Every text that is written is in the grammar. What it means is the value it was written from exactly
if the value *fits*: its nesting has room, its objects are in key order, its whole numbers are of 64
bits, and its real numbers are read back each by itself.

* §A `Fits`, with one constructor for each kind of value, and **`ofWritten?_written`**.
* §B **`read?_write_iff`** — nothing else is read back.
-/
import DomainFilter.Proofs.Json.Numbers
import DomainFilter.Proofs.Value.KeyOrder

namespace DomainFilter.Json

/-! ## §A Values that fit -/

/-- The value has room in so many levels of nesting, its objects are in key order, its whole numbers
are of 64 bits, and its real numbers are read back. -/
inductive Fits : Nat → Json → Prop
  | null {levels : Nat} : Fits levels .null
  | bool {levels : Nat} (b : Bool) : Fits levels (.bool b)
  | whole {levels : Nat} {n : Int} (hleast : -(Nat.pow 2 63 : Nat) ≤ n)
      (hgreatest : n ≤ greatestWord) : Fits levels (.whole n)
  | real {levels : Nat} {x : Binary64} (hreads : ReadsBack x) : Fits levels (.real x)
  | string {levels : Nat} (s : String) : Fits levels (.string s)
  | array {levels : Nat} {items : List Json} (hitems : ∀ item ∈ items, Fits levels item) :
      Fits (levels + 1) (.array items)
  | object {levels : Nat} {members : Fields Json} (hsorted : Fields.Sorted members)
      (hmembers : ∀ member ∈ members, Fits levels member.2) : Fits (levels + 1) (.object members)

section Items

variable {levels : Nat}

theorem itemsOfWritten?_writtenItems {items : List Json}
    (h : ∀ item ∈ items, ofWritten? levels (written item) = some item) :
    itemsOfWritten? levels (writtenItems items) = some items := by
  induction items with
  | nil => rfl
  | cons item items ih =>
    obtain ⟨hitem, hitems⟩ := List.forall_mem_cons.mp h
    simp only [writtenItems, itemsOfWritten?, hitem, ih hitems, Option.bind_eq_bind,
      Option.bind_some]

theorem membersOfWritten?_writtenMembers {members : List (String × Json)}
    (h : ∀ member ∈ members, ofWritten? levels (written member.2) = some member.2) :
    membersOfWritten? levels (writtenMembers members) = some members := by
  induction members with
  | nil => rfl
  | cons member members ih =>
    obtain ⟨hmember, hmembers⟩ := List.forall_mem_cons.mp h
    simp only [writtenMembers, membersOfWritten?, stringOf?_pieceOf, hmember, ih hmembers,
      Option.bind_eq_bind, Option.bind_some]

/-- A member is read under its own name. -/
theorem keys_of_membersOfWritten? {members pairs : Fields Json}
    (h : membersOfWritten? levels (writtenMembers members) = some pairs) :
    Fields.keys pairs = Fields.keys members := by
  induction members generalizing pairs with
  | nil => rw [← Option.some.inj h]
  | cons member members ih =>
    simp only [writtenMembers, membersOfWritten?, stringOf?_pieceOf, Option.bind_eq_bind,
      Option.bind_some, Option.bind_eq_some_iff, Option.some_inj] at h
    obtain ⟨value, -, rest, hrest, rfl⟩ := h
    exact congrArg (member.1 :: ·) (ih hrest)

end Items

/-- **`ofWritten?_written`** — as it is written, a value that fits means itself. -/
theorem ofWritten?_written {levels : Nat} {json : Json} (h : Fits levels json) :
    ofWritten? levels (written json) = some json := by
  induction h with
  | null => rfl
  | bool b => rfl
  | whole hleast hgreatest =>
    rw [written, ofWritten?]
    exact numberOf?_writtenWhole_iff.mpr ⟨hleast, hgreatest⟩
  | real hreads =>
    rw [written, ofWritten?_writtenReal]
    exact hreads
  | string s => rw [written, ofWritten?, stringOf?_pieceOf, Option.map_some]
  | array _ ih => rw [written, ofWritten?, itemsOfWritten?_writtenItems ih, Option.map_some]
  | object hsorted _ ih =>
    rw [written, ofWritten?, membersOfWritten?_writtenMembers ih, Option.map_some,
      Fields.ofPairs_of_sorted hsorted]

/-! ## §B No others are read back -/

mutual

/-- What means itself as it is written fits. -/
theorem fits_of_ofWritten? : ∀ (json : Json) {levels : Nat},
    ofWritten? levels (written json) = some json → Fits levels json
  | .null, _, _ => .null
  | .bool b, _, _ => .bool b
  | .whole n, _, h => by
    rw [written, ofWritten?] at h
    obtain ⟨hleast, hgreatest⟩ := numberOf?_writtenWhole_iff.mp h
    exact .whole hleast hgreatest
  | .real x, _, h => by
    rw [written, ofWritten?_writtenReal] at h
    exact .real h
  | .string s, _, _ => .string s
  | .array items, 0, h => by
    rw [written, ofWritten?] at h
    cases h
  | .array items, levels + 1, h => by
    rw [written, ofWritten?] at h
    obtain ⟨read, hread, heq⟩ := Option.map_eq_some_iff.mp h
    rw [Json.array.inj heq] at hread
    exact .array (fits_of_itemsOfWritten? items hread)
  | .object members, 0, h => by
    rw [written, ofWritten?] at h
    cases h
  | .object members, levels + 1, h => by
    rw [written, ofWritten?] at h
    obtain ⟨pairs, hread, heq⟩ := Option.map_eq_some_iff.mp h
    have hput : Fields.ofPairs pairs = members := Json.object.inj heq
    have hsorted : Fields.Sorted members := hput ▸ Fields.sorted_ofPairs pairs
    -- the pairs have the names of the members in their order, so they are put as they are
    have hpairs : Fields.Sorted pairs := by
      rw [Fields.Sorted, keys_of_membersOfWritten? hread]
      exact hsorted
    rw [← Fields.ofPairs_of_sorted hpairs, hput] at hread
    exact .object hsorted (fits_of_membersOfWritten? members hread)

theorem fits_of_itemsOfWritten? : ∀ (items : List Json) {levels : Nat},
    itemsOfWritten? levels (writtenItems items) = some items → ∀ item ∈ items, Fits levels item
  | [], _, _ => List.forall_mem_nil _
  | item :: items, _, h => by
    simp only [writtenItems, itemsOfWritten?, Option.bind_eq_bind, Option.bind_eq_some_iff,
      Option.some_inj, List.cons.injEq] at h
    obtain ⟨_, hitem, _, hitems, rfl, rfl⟩ := h
    rw [List.forall_mem_cons]
    exact ⟨fits_of_ofWritten? _ hitem, fits_of_itemsOfWritten? _ hitems⟩

theorem fits_of_membersOfWritten? : ∀ (members : List (String × Json)) {levels : Nat},
    membersOfWritten? levels (writtenMembers members) = some members →
      ∀ member ∈ members, Fits levels member.2
  | [], _, _ => List.forall_mem_nil _
  | (key, value) :: members, _, h => by
    simp only [writtenMembers, membersOfWritten?, stringOf?_pieceOf, Option.bind_eq_bind,
      Option.bind_some, Option.bind_eq_some_iff, Option.some_inj, List.cons.injEq,
      Prod.mk.injEq, true_and] at h
    obtain ⟨_, hvalue, _, hmembers, rfl, rfl⟩ := h
    rw [List.forall_mem_cons]
    exact ⟨fits_of_ofWritten? _ hvalue, fits_of_membersOfWritten? _ hmembers⟩

end

/-- **`read?_write_iff`** — a value is read back from its text exactly if it fits. -/
theorem read?_write_iff {json : Json} :
    read? (write json) = some json ↔ Fits depthLimit json := by
  rw [read?, writtenRead?_write, Option.bind_some]
  exact ⟨fits_of_ofWritten? json, ofWritten?_written⟩

theorem ofText?_text {json : Json} (h : Fits depthLimit json) : ofText? json.text = some json := by
  rw [ofText?, text, String.toList_ofList]
  exact read?_write_iff.mpr h

end DomainFilter.Json
