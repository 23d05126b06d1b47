/-
# DomainFilter.Proofs.Document.WellFormed — documents contain well-formed values

* §A A domain is well formed if both sides of each of its conditions are.
  **`Domain.wellFormed_ofValue`** — it is if the value is that it is read from, and merging keeps
  it so.
* §B **`Document.wellFormed_load`** — so is everything in a document, whatever the file contains.
* §C **`Document.WellFormed.compared`** — operand and resolved value of every condition of such a
  document are well formed, at any clock: objects that are compared have the same fields under the
  same names exactly if they are equal.
-/
import DomainFilter.Proofs.Document.Readings
import DomainFilter.Proofs.Domain.Grammar
import DomainFilter.Proofs.Domain.Product

namespace DomainFilter

/-! ## §A Domains -/

/-- Both sides of the condition are well formed. -/
structure Condition.WellFormed (c : Condition) : Prop where
  operand : c.operand.WellFormed
  value : c.value.WellFormed

/-- Every condition is well formed. -/
def Domain.WellFormed (d : Domain) : Prop := ∀ c ∈ d.conditions, c.WellFormed

theorem Condition.wellFormed_ofItems {items : List Value} (h : ∀ item ∈ items, item.WellFormed) :
    (ofItems items).WellFormed := by
  have hplace : ∀ place : Nat, (items[place]?.getD .null).WellFormed := by
    intro place
    cases hitem : items[place]? with
    | none => exact .null
    | some item => exact h item (List.mem_of_getElem? hitem)
  exact ⟨hplace 0, hplace 2⟩

namespace Domain

theorem wellFormed_empty : empty.WellFormed := List.forall_mem_nil _

/-- In every shape of the grammar the conditions are made of items of the value. -/
theorem Reads.wellFormed {raw : Value} {d : Domain} (h : Reads raw d) (hraw : raw.WellFormed) :
    d.WellFormed := by
  have hrows : ∀ {rows : List (List Value)}, (Value.arrayOfArrays rows).WellFormed →
      ∀ row ∈ rows, (Condition.ofItems row).WellFormed := by
    intro rows hrows row hrow
    have hitems := Value.wellFormed_array_iff.mp hrows _ (List.mem_map_of_mem hrow)
    exact Condition.wellFormed_ofItems (Value.wellFormed_array_iff.mp hitems)
  cases h with
  | null => exact wellFormed_empty
  | nothing => exact wellFormed_empty
  | condition _ =>
    intro c hc
    rw [List.mem_singleton.mp hc]
    exact Condition.wellFormed_ofItems (Value.wellFormed_array_iff.mp hraw)
  | clause _ =>
    intro c hc
    obtain ⟨clause, hclause, hc⟩ := mem_conditions.mp hc
    rw [List.mem_singleton.mp hclause] at hc
    obtain ⟨row, hrow, rfl⟩ := List.mem_map.mp hc
    exact hrows hraw row hrow
  | clauses _ =>
    intro c hc
    obtain ⟨clause, hclause, hc⟩ := mem_conditions.mp hc
    obtain ⟨rows, hmem, rfl⟩ := List.mem_map.mp hclause
    obtain ⟨row, hrow, rfl⟩ := List.mem_map.mp hc
    exact hrows (Value.wellFormed_array_iff.mp hraw _ (List.mem_map_of_mem hmem)) row hrow

/-- **`wellFormed_ofValue`** — a domain is as well formed as the value that it is read from. -/
theorem wellFormed_ofValue {raw : Value} (h : raw.WellFormed) : (ofValue raw).WellFormed := by
  cases hread : ofValue? raw with
  | error e =>
    rw [ofValue, hread]
    exact wellFormed_empty
  | ok d =>
    rw [ofValue, hread]
    exact (ofValue?_eq_ok_iff.mp hread).wellFormed h

theorem WellFormed.toValue {d : Domain} (h : d.WellFormed) : d.toValue.WellFormed := by
  apply toValue_of_parts (p := fun _ => Value.WellFormed) (n := 0) (fun _ => .string) .array
  intro c hc
  exact ⟨(h c hc).operand, (h c hc).value⟩

theorem WellFormed.merge {d other : Domain} (hd : d.WellFormed) (hother : other.WellFormed) :
    (d.merge other).WellFormed := by
  rw [merge_eq]
  apply wellFormed_ofValue
  apply WellFormed.toValue
  intro c hc
  rcases mem_conditions_product.mp hc with hc | hc
  · exact hother c hc
  · exact hd c hc

theorem WellFormed.mergeAll {d : Domain} {others : List Domain} (hd : d.WellFormed)
    (hothers : ∀ other ∈ others, other.WellFormed) : (d.mergeAll others).WellFormed := by
  induction others generalizing d with
  | nil => exact hd
  | cons other others ih =>
    obtain ⟨hother, hothers⟩ := List.forall_mem_cons.mp hothers
    rw [mergeAll_cons]
    exact ih (hd.merge hother) hothers

end Domain

/-! ## §B Documents -/

/-- A record of well-formed values, in key order. -/
def Record.WellFormed (record : Record) : Prop := (Value.object record).WellFormed

/-- Each of the records is well formed. -/
structure Records.WellFormed (records : Records) : Prop where
  object : Record.WellFormed records.object
  user : Record.WellFormed records.user
  parent : Record.WellFormed records.parent
  env : Record.WellFormed records.env

/-- Every value in the document is well formed. -/
structure Document.WellFormed (doc : Document) : Prop where
  domain : doc.domain.WellFormed
  filters : ∀ filter ∈ doc.filters, filter.WellFormed
  context : doc.context.WellFormed

theorem Record.wellFormed_nil : Record.WellFormed [] :=
  .object Fields.sorted_nil (List.forall_mem_nil _)

theorem Value.fields?_eq_some_iff {value : Value} {fields : Record} :
    value.fields? = some fields ↔ value = .object fields := by
  cases value <;> simp [fields?]

theorem Records.wellFormed_empty : Records.WellFormed {} :=
  ⟨Record.wellFormed_nil, Record.wellFormed_nil, Record.wellFormed_nil,
    Record.wellFormed_nil⟩

/-! ### In JSON -/

namespace Json.Written

theorem forall_of_mapM {α β : Type} {p : β → Prop} {read : α → Option β}
    (h : ∀ x y, read x = some y → p y) {xs : List α} {ys : List β}
    (hread : xs.mapM read = some ys) : ∀ y ∈ ys, p y := by
  induction xs generalizing ys with
  | nil =>
    rw [← Option.some.inj hread]
    exact List.forall_mem_nil _
  | cons x xs ih =>
    rw [List.mapM_cons] at hread
    simp only [Option.bind_eq_bind, Option.bind_eq_some_iff, Option.pure_def, Option.some_inj]
      at hread
    obtain ⟨first, hfirst, rest, hrest, rfl⟩ := hread
    exact List.forall_mem_cons.mpr ⟨h x first hfirst, ih hrest⟩

/-- A field that is there is read, and one that is not has the default. -/
theorem of_optional? {α : Type} {p : α → Prop} {default value : α} {read : Written → Option α}
    (hdefault : p default) (hread : ∀ written, read written = some value → p value)
    {field : Option Written} (h : optional? default read field = some value) : p value := by
  unfold optional? at h
  split at h
  · rw [← Option.some.inj h]
    exact hdefault
  · exact hread _ h

theorem wellFormed_toRecord? {levels : Nat} {written : Written} {record : Record}
    (h : toRecord? levels written = some record) : Record.WellFormed record := by
  obtain ⟨json, hjson, hfields⟩ := Option.bind_eq_some_iff.mp h
  have hvalue := Value.wellFormed_ofJson (wellFormed_ofWritten? written hjson)
  rwa [Value.fields?_eq_some_iff.mp hfields] at hvalue

theorem wellFormed_toDomain? {levels : Nat} {written : Written} {d : Domain}
    (h : toDomain? levels written = some d) : d.WellFormed := by
  obtain ⟨json, hjson, rfl⟩ := Option.map_eq_some_iff.mp h
  exact Domain.wellFormed_ofValue (Value.wellFormed_ofJson (wellFormed_ofWritten? written hjson))

theorem wellFormed_toDomains? {levels : Nat} {written : Written} {ds : List Domain}
    (h : toDomains? levels written = some ds) : ∀ d ∈ ds, d.WellFormed := by
  unfold toDomains? at h
  split at h
  · exact forall_of_mapM (fun _ _ => wellFormed_toDomain?) h
  · cases h

theorem wellFormed_toContext? {levels : Nat} {written : Written} {ctx : DocumentContext}
    (h : toContext? levels written = some ctx) : ctx.WellFormed := by
  unfold toContext? at h
  simp only [Option.bind_eq_bind, Option.bind_eq_some_iff] at h
  obtain ⟨fields, -, h⟩ := h
  split at h
  · simp only [Option.bind_eq_some_iff, Option.some_inj] at h
    obtain ⟨object, hobject, user, huser, parent, hparent, env, henv, now, -, rfl⟩ := h
    have hrecord : ∀ {field : Option Written} {record : Record},
        optional? [] (toRecord? (levels - 1)) field = some record → Record.WellFormed record :=
      of_optional? (p := Record.WellFormed) Record.wellFormed_nil fun _ => wellFormed_toRecord?
    exact ⟨hrecord hobject, hrecord huser, hrecord hparent, hrecord henv⟩
  · cases h

theorem wellFormed_toDocument? {levels : Nat} {written : Written} {doc : Document}
    (h : toDocument? levels written = some doc) : doc.WellFormed := by
  unfold toDocument? at h
  simp only [Option.bind_eq_bind, Option.bind_eq_some_iff] at h
  obtain ⟨fields, -, h⟩ := h
  split at h
  · simp only [Option.bind_eq_some_iff, Option.some_inj] at h
    obtain ⟨domain, hdomain, filters, hfilters, context, hcontext, rfl⟩ := h
    refine ⟨?_, ?_, ?_⟩
    · exact of_optional? Domain.wellFormed_empty (fun _ => wellFormed_toDomain?) hdomain
    · refine of_optional? (p := fun filters => ∀ filter ∈ filters, filter.WellFormed)
        (List.forall_mem_nil _) (fun _ => wellFormed_toDomains?) hfilters
    · exact of_optional? (p := fun context : DocumentContext => context.WellFormed)
        Records.wellFormed_empty (fun _ => wellFormed_toContext?) hcontext
  · cases h

end Json.Written

/-! ### In YAML -/

namespace Yaml.Graph

theorem gives_optional {α : Type} {p : α → Prop} {default : α} {read : Node → Reading α}
    (hdefault : p default) (hread : ∀ node, Gives p (read node)) (field : Option Node) :
    Gives p (optional default read field) := by
  cases field with
  | none => exact gives_pure hdefault
  | some node => exact hread node

theorem gives_record (graph : Graph) (levels : Nat) (node : Node) :
    Gives Record.WellFormed (graph.record levels node) := by
  refine gives_of_forall fun pairs => ?_
  intro aliases record left hread
  obtain ⟨hsorted, hfields⟩ :=
    gives_readFields (gives_read graph keeps_asValue (levels - 1)) pairs _ _ _ hread
  exact .object hsorted hfields

theorem gives_domain (graph : Graph) (levels : Nat) (node : Node) :
    Gives Domain.WellFormed (graph.domain levels node) := by
  refine gives_bind (gives_read graph keeps_asJson levels node) fun json hjson => ?_
  exact gives_pure (Domain.wellFormed_ofValue (Value.wellFormed_ofJson hjson))

theorem gives_domains (graph : Graph) (levels : Nat) (node : Node) :
    Gives (fun ds => ∀ d ∈ ds, d.WellFormed) (graph.domains levels node) :=
  gives_of_forall fun items => gives_mapM (gives_domain graph (levels - 1)) items

theorem gives_context (graph : Graph) (levels : Nat) (node : Node) :
    Gives (fun ctx : DocumentContext => ctx.WellFormed) (graph.context levels node) := by
  have hrecord : ∀ field, Gives Record.WellFormed
      (optional [] (graph.record (levels - 1)) field) :=
    gives_optional Record.wellFormed_nil (gives_record graph (levels - 1))
  refine gives_of_forall fun fields => ?_
  split
  · refine gives_bind (hrecord _) fun object hobject => ?_
    refine gives_bind (hrecord _) fun user huser => ?_
    refine gives_bind (hrecord _) fun parent hparent => ?_
    refine gives_bind (hrecord _) fun env henv => ?_
    refine gives_of_forall fun now => ?_
    exact gives_pure ⟨hobject, huser, hparent, henv⟩
  · exact gives_failure

theorem gives_document (graph : Graph) (levels : Nat) (node : Node) :
    Gives Document.WellFormed (graph.document levels node) := by
  refine gives_of_forall fun fields => ?_
  split
  · refine gives_bind (gives_optional Domain.wellFormed_empty (gives_domain graph _) _)
      fun domain hdomain => ?_
    refine gives_bind (gives_optional (List.forall_mem_nil _) (gives_domains graph _) _)
      fun filters hfilters => ?_
    refine gives_bind (gives_optional (p := fun ctx : DocumentContext => ctx.WellFormed)
      Records.wellFormed_empty (gives_context graph _) _)
      fun context hcontext => ?_
    exact gives_pure ⟨hdomain, hfilters, hcontext⟩
  · exact gives_failure

theorem of_run {α : Type} {p : α → Prop} {graph : Graph} {reading : Node → Reading α}
    (h : ∀ node, Gives p (reading node)) {value : α} (hrun : graph.run reading = some value) :
    p value := by
  obtain ⟨⟨read, left⟩, hread, rfl⟩ := Option.map_eq_some_iff.mp hrun
  exact h _ _ _ _ hread

end Yaml.Graph

/-! ### Whole documents -/

namespace Document

theorem wellFormed_ofJsonText? {s : String} {doc : Document} (h : ofJsonText? s = some doc) :
    doc.WellFormed := by
  obtain ⟨written, -, hdoc⟩ := Option.bind_eq_some_iff.mp h
  exact Json.Written.wellFormed_toDocument? hdoc

theorem wellFormed_ofYamlText? {s : String} {doc : Document} (h : ofYamlText? s = some doc) :
    doc.WellFormed := by
  obtain ⟨graph, -, hdoc⟩ := Option.bind_eq_some_iff.mp h
  exact Yaml.Graph.of_run (Yaml.Graph.gives_document graph Yaml.depthLimit) hdoc

theorem eq_some_of_elim {α ε : Type} {read : Option α} {e : ε} {value : α}
    (h : read.elim (Except.error e) .ok = .ok value) : read = some value := by
  cases read with
  | none => cases h
  | some found => rw [Except.ok.inj h]

theorem wellFormed_ofText {format : DocumentFormat} {s : String} {doc : Document}
    (h : ofText format s = .ok doc) : doc.WellFormed := by
  cases format with
  | json => exact wellFormed_ofJsonText? (eq_some_of_elim h)
  | yaml => exact wellFormed_ofYamlText? (eq_some_of_elim h)

/-- **`wellFormed_load`** — whatever a file contains, the document of it is well formed. -/
theorem wellFormed_load {name : String} {content : Option ByteArray} {doc : Document}
    (h : load name content = .ok doc) : doc.WellFormed := by
  unfold load at h
  split at h
  · cases h
  · split at h
    · cases h
    · exact wellFormed_ofText h

theorem WellFormed.combined {doc : Document} (h : doc.WellFormed) : doc.combined.WellFormed :=
  h.domain.mergeAll h.filters

end Document

/-! ## §C What is compared -/

section Compared

variable {record : Record} {key : String} {value : Value}

theorem Record.WellFormed.get? (h : Record.WellFormed record)
    (hfound : Fields.get? key record = some value) : value.WellFormed :=
  (Value.wellFormed_object_iff.mp h).2 _ (Fields.mem_of_get?_eq_some hfound)

theorem Path.wellFormed_step? {segment : List Char} {next : Value} (h : value.WellFormed)
    (hstep : step? value segment = some next) : next.WellFormed := by
  cases value with
  | object fields => exact Record.WellFormed.get? h hstep
  | array items =>
    obtain ⟨i, -, hitem⟩ := Option.bind_eq_some_iff.mp hstep
    exact Value.wellFormed_array_iff.mp h next (List.mem_of_getElem? hitem)
  | _ => cases hstep

theorem Path.wellFormed_walk? {path : List (List Char)} {target : Value} (h : value.WellFormed)
    (hwalk : walk? value path = some target) : target.WellFormed := by
  induction path generalizing value with
  | nil =>
    rw [← Option.some.inj hwalk]
    exact h
  | cons segment path ih =>
    obtain ⟨next, hstep, hrest⟩ := Option.bind_eq_some_iff.mp hwalk
    exact ih (wellFormed_step? h hstep) hrest

namespace Symbol

theorem wellFormed_identity? (h : Record.WellFormed record) {default : Value}
    (hdefault : default.WellFormed) : ((identity? record).getD default).WellFormed := by
  unfold identity?
  cases hid : Fields.get? "id" record with
  | some id => exact h.get? hid
  | none =>
    cases hname : Fields.get? "name" record with
    | some name => exact h.get? hname
    | none => exact hdefault

theorem wellFormed_collapseObject (h : value.WellFormed) : (collapseObject value).WellFormed := by
  unfold collapseObject
  split
  · exact wellFormed_identity? h (.string _)
  · exact .string _
  · exact h

theorem wellFormed_collapseParent (h : value.WellFormed) : (collapseParent value).WellFormed := by
  unfold collapseParent
  split
  · exact wellFormed_identity? h .null
  · exact h

end Symbol

theorem Resolution.ofOption_eq_resolved_iff {found : Option Value} :
    ofOption found = .resolved value ↔ found = some value := by
  cases found <;> simp [ofOption]

/-- What a reference becomes is well formed if the records are. -/
theorem Symbol.wellFormed_resolve {ctx : Context} (h : ctx.WellFormed) {symbol : Symbol}
    (hresolve : symbol.resolve ctx = .resolved value) : value.WellFormed := by
  cases symbol with
  | literal => cases hresolve
  | object path =>
    obtain ⟨target, hlookup, rfl⟩ :=
      Option.map_eq_some_iff.mp (Resolution.ofOption_eq_resolved_iff.mp hresolve)
    exact wellFormed_collapseObject (Path.wellFormed_walk? h.object hlookup)
  | user key => exact h.user.get? (Resolution.ofOption_eq_resolved_iff.mp hresolve)
  | parent key =>
    obtain ⟨field, hfield, rfl⟩ :=
      Option.map_eq_some_iff.mp (Resolution.ofOption_eq_resolved_iff.mp hresolve)
    exact wellFormed_collapseParent (h.parent.get? hfield)
  | date descriptor =>
    rw [← Resolution.resolved.inj hresolve]
    exact .string _
  | env key =>
    rw [← Resolution.resolved.inj hresolve]
    cases hfield : Fields.get? key ctx.env with
    | none => exact .bool false
    | some field => exact h.env.get? hfield

theorem Condition.WellFormed.resolved {ctx : Context} (hctx : ctx.WellFormed) {c : Condition}
    (h : c.WellFormed) (hvalue : (c.resolved ctx).value = some value) : value.WellFormed := by
  simp only [Condition.resolved] at hvalue
  split at hvalue
  case h_1 hresolve =>
    rw [← Option.some.inj hvalue]
    exact Symbol.wellFormed_resolve hctx hresolve
  case h_2 =>
    rw [← Option.some.inj hvalue]
    exact h.value
  case h_3 => cases hvalue

theorem Record.WellFormed.operand (h : Record.WellFormed record) (hvalue : value.WellFormed) :
    (Record.operand record value).WellFormed := by
  unfold Record.operand
  split
  · split
    case h_1 field hfield =>
      have hfound := h.get? hfield
      unfold Value.collapseOperand
      split
      · cases hid : Fields.get? "id" _ with
        | none => exact .null
        | some id => exact Record.WellFormed.get? hfound hid
      · exact hfound
    case h_2 => exact .string _
  · exact hvalue

end Compared

/-- **`Document.WellFormed.compared`** — to evaluate the combined domain of a document is to compare
well-formed values. -/
theorem Document.WellFormed.compared {doc : Document} (h : doc.WellFormed) (zone : Zone)
    (clock : Instant) {c : Condition} (hc : c ∈ doc.combined.conditions) :
    (Record.operand doc.context.object c.operand).WellFormed ∧
      ∀ value, (c.resolved (doc.context.toContext zone clock)).value = some value →
        value.WellFormed := by
  have hcondition : c.WellFormed := h.combined c hc
  constructor
  · exact h.context.object.operand hcondition.operand
  · intro value hvalue
    exact hcondition.resolved h.context hvalue

end DomainFilter
