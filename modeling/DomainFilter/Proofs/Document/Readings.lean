/-
# DomainFilter.Proofs.Document.Readings — what is read is well formed

Both readers put the fields of an object in their places, whatever order a text has them in and
however often it has them.

* §A **`Json.wellFormed_ofWritten?`** — the value that a JSON text means is well formed.
* §B A reading of a YAML document `Gives` a property if it has it of whatever it reads, from any
  aliases on. **`Yaml.Graph.gives_read`** — a property that every kind of node hands on to the value
  that is made of it holds of the value of a whole graph; being well formed is one.
-/
import DomainFilter.Document.Load
import DomainFilter.Proofs.Value.KeyOrder

namespace DomainFilter

/-! ## §A JSON texts -/

namespace Json

/-- Fields that are written one after the other with well-formed values are well formed. -/
theorem wellFormed_ofPairs {pairs : List (String × Json)} (h : ∀ pair ∈ pairs, pair.2.WellFormed) :
    (Json.object (Fields.ofPairs pairs)).WellFormed :=
  .object (Fields.sorted_ofPairs pairs) fun member hmember =>
    h member (Fields.mem_of_mem_ofPairs hmember)

theorem wellFormed_numberOf? {n : WrittenNumber} {json : Json} (h : numberOf? n = some json) :
    json.WellFormed := by
  have hreal : ∀ {digits : Nat} {exponent : Int} {negative : Bool},
      (scaled? digits exponent).map (fun m => Json.real (.signed negative m)) = some json →
        json.WellFormed := by
    intro digits exponent negative h
    obtain ⟨m, -, rfl⟩ := Option.map_eq_some_iff.mp h
    exact .real _
  simp only [numberOf?] at h
  split at h
  · split at h
    · exact hreal h
    · split at h
      · rw [← Option.some.inj h]
        exact .whole _
      · split at h
        · exact hreal h
        · rw [← Option.some.inj h]
          exact .whole _
  · exact hreal h

mutual

/-- What a text means is well formed, since the members of an object are put in their places. -/
theorem wellFormed_ofWritten? : ∀ {levels : Nat} (written : Written) {json : Json},
    ofWritten? levels written = some json → json.WellFormed
  | _, .null, _, h => by
    rw [ofWritten?] at h
    cases h
    exact .null
  | _, .bool b, _, h => by
    rw [ofWritten?] at h
    cases h
    exact .bool b
  | _, .number n, _, h => by
    rw [ofWritten?] at h
    exact wellFormed_numberOf? h
  | _, .string pieces, _, h => by
    rw [ofWritten?] at h
    obtain ⟨s, -, rfl⟩ := Option.map_eq_some_iff.mp h
    exact .string s
  | 0, .array items, _, h => by
    rw [ofWritten?] at h
    cases h
  | levels + 1, .array items, _, h => by
    rw [ofWritten?] at h
    obtain ⟨read, hread, rfl⟩ := Option.map_eq_some_iff.mp h
    exact .array (wellFormed_itemsOfWritten? items hread)
  | 0, .object members, _, h => by
    rw [ofWritten?] at h
    cases h
  | levels + 1, .object members, _, h => by
    rw [ofWritten?] at h
    obtain ⟨read, hread, rfl⟩ := Option.map_eq_some_iff.mp h
    exact wellFormed_ofPairs (wellFormed_membersOfWritten? members hread)

theorem wellFormed_itemsOfWritten? : ∀ {levels : Nat} (items : List Written) {read : List Json},
    itemsOfWritten? levels items = some read → ∀ item ∈ read, item.WellFormed
  | _, [], _, h => by
    rw [itemsOfWritten?] at h
    cases h
    exact List.forall_mem_nil _
  | _, item :: items, _, h => by
    rw [itemsOfWritten?] at h
    simp only [Option.bind_eq_bind, Option.bind_eq_some_iff, Option.some_inj] at h
    obtain ⟨first, hfirst, rest, hrest, rfl⟩ := h
    exact List.forall_mem_cons.mpr
      ⟨wellFormed_ofWritten? item hfirst, wellFormed_itemsOfWritten? items hrest⟩

theorem wellFormed_membersOfWritten? : ∀ {levels : Nat} (members : List (List Piece × Written))
    {read : List (String × Json)},
    membersOfWritten? levels members = some read → ∀ member ∈ read, member.2.WellFormed
  | _, [], _, h => by
    rw [membersOfWritten?] at h
    cases h
    exact List.forall_mem_nil _
  | _, (key, value) :: members, _, h => by
    rw [membersOfWritten?] at h
    simp only [Option.bind_eq_bind, Option.bind_eq_some_iff, Option.some_inj] at h
    obtain ⟨name, -, first, hfirst, rest, hrest, rfl⟩ := h
    exact List.forall_mem_cons.mpr
      ⟨wellFormed_ofWritten? value hfirst, wellFormed_membersOfWritten? members hrest⟩

end

end Json

/-! ## §B YAML documents -/

namespace Yaml

/-- Whatever the reading gives has the property. -/
def Gives {α : Type} (p : α → Prop) (reading : Reading α) : Prop :=
  ∀ aliases value left, reading aliases = some (value, left) → p value

section Gives

variable {α β : Type} {p : α → Prop} {q : β → Prop}

theorem gives_pure {value : α} (h : p value) : Gives p (pure value) := by
  intro aliases read left hread
  rw [← (Prod.mk.inj (Option.some.inj hread)).1]
  exact h

theorem gives_failure : Gives p failure := by
  intro aliases read left hread
  cases hread

theorem gives_bind {first : Reading β} {next : β → Reading α} (hfirst : Gives q first)
    (hnext : ∀ read, q read → Gives p (next read)) : Gives p (first >>= next) := by
  intro aliases value left hread
  obtain ⟨⟨read, after⟩, hread, hrest⟩ := Option.bind_eq_some_iff.mp hread
  exact hnext read (hfirst aliases read after hread) after value left hrest

/-- Nothing has to be known of what was read before. -/
theorem gives_of_forall {first : Reading β} {next : β → Reading α}
    (hnext : ∀ read, Gives p (next read)) : Gives p (first >>= next) :=
  gives_bind (q := fun _ => True) (fun _ _ _ _ => trivial) fun read _ => hnext read

theorem gives_mapM {f : β → Reading α} (h : ∀ x, Gives p (f x)) (xs : List β) :
    Gives (fun values => ∀ value ∈ values, p value) (xs.mapM f) := by
  induction xs with
  | nil => exact gives_pure (List.forall_mem_nil _)
  | cons x xs ih =>
    rw [List.mapM_cons]
    refine gives_bind (h x) fun value hvalue => ?_
    refine gives_bind ih fun values hvalues => ?_
    exact gives_pure (List.forall_mem_cons.mpr ⟨hvalue, hvalues⟩)

end Gives

namespace Graph

variable {α : Type} {p : α → Prop}

/-- The values taken one way have a property that each kind of node hands on. -/
structure Target.Keeps (target : Target α) (p : α → Prop) : Prop where
  scalar : ∀ meaning, p (target.scalar meaning)
  sequence : ∀ {items}, (∀ item ∈ items, p item) → p (target.sequence items)
  mapping : ∀ {fields : Fields α}, Fields.Sorted fields → (∀ field ∈ fields, p field.2) →
    p (target.mapping fields)

theorem gives_readScalar {target : Target α} (h : target.Keeps p) (text : List Char) (plain : Bool)
    (tag : Option Tag) : Gives p (readScalar target text plain tag) := by
  unfold readScalar
  split
  · exact gives_pure (h.scalar _)
  · exact gives_failure

theorem gives_readFields {key : Node → Reading String} {read : Node → Reading α}
    (h : ∀ node, Gives p (read node)) (pairs : List (Node × Node)) :
    Gives (fun fields => Fields.Sorted fields ∧ ∀ field ∈ fields, p field.2)
      (readFields key read pairs) := by
  refine gives_bind (gives_mapM (p := fun field : String × α => p field.2) ?_ pairs) ?_
  · rintro ⟨keyNode, valueNode⟩
    refine gives_of_forall fun name => ?_
    exact gives_bind (h valueNode) fun value hvalue => gives_pure hvalue
  · intro fields hfields
    refine gives_pure ⟨Fields.sorted_ofPairs fields, ?_⟩
    intro field hfield
    exact hfields field (Fields.mem_of_mem_ofPairs hfield)

theorem gives_read (graph : Graph) {target : Target α} (h : target.Keeps p) (levels : Nat)
    (node : Node) : Gives p (graph.read target levels node) := by
  induction levels generalizing node with
  | zero =>
    rw [read]
    refine gives_of_forall fun followed => ?_
    split
    · exact gives_readScalar h _ _ _
    · exact gives_failure
  | succ levels ih =>
    rw [read]
    refine gives_of_forall fun followed => ?_
    split
    · exact gives_readScalar h _ _ _
    · split
      · exact gives_bind (gives_mapM ih _) fun items hitems => gives_pure (h.sequence hitems)
      · exact gives_failure
    · split
      · refine gives_bind (gives_readFields ih _) ?_
        rintro fields ⟨hsorted, hfields⟩
        exact gives_pure (h.mapping hsorted hfields)
      · exact gives_failure
    · exact gives_failure

theorem keeps_asJson : asJson.Keeps Json.WellFormed where
  scalar meaning := by
    rcases meaning with _ | b | n | x | s
    · exact .null
    · exact .bool b
    · exact .whole n
    · show (Value.realJson x).WellFormed
      rw [Value.realJson]
      split
      · exact .real x
      · exact .null
    · exact .string _
  sequence := .array
  mapping := .object

theorem keeps_asValue : asValue.Keeps Value.WellFormed where
  scalar meaning := by
    rcases meaning with _ | b | n | x | s
    · exact .null
    · exact .bool b
    · exact .number _
    · exact .number x
    · exact .string _
  sequence := .array
  mapping := .object

end Graph

end Yaml

end DomainFilter
