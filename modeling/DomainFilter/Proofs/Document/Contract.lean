/-
# DomainFilter.Proofs.Document.Contract — what the combined domain of a document means

A document promises its domain with every filter on top of it. Its combined domain is made by
merging, and a merge writes null values as strings, so what the parts mean as they stand and what
they mean once combined can differ: for a null that is looked for among the items of an array.

* §A The parts of a document, and **`evaluate_combined_iff`** — with a filter, the combined domain
  holds exactly if every part does with its sought nulls as text; without one nothing is rewritten.
* §B **`combined_is_conjunction_iff`** — exactly when the combined domain is the conjunction of the
  parts as they stand. It always is where no null is sought (`combined_is_conjunction_of_no_null`).
* §C **`combined_verdict_of_same_filters`** — which filters there are decides the verdict. Their
  order and their repetitions decide only which clauses the combined domain has, and how many.
-/
import DomainFilter.Document.Basic
import DomainFilter.Proofs.Domain.Conjunction
import DomainFilter.Proofs.Verdict.Null

namespace DomainFilter.Document

/-! ## §A The parts of a document -/

/-- The domain and its filters. -/
def parts (doc : Document) : List Domain := doc.domain :: doc.filters

/-- Every part was read from some value. -/
def PartsRead (doc : Document) : Prop := ∀ d ∈ doc.parts, ∃ raw, d = .ofValue raw

/-- Every operator of every part is one of the fifteen. -/
def PartsSupported (doc : Document) : Prop :=
  ∀ d ∈ doc.parts, ∀ c ∈ d.conditions, c.operator.isSupported = true

theorem forall_parts_iff (doc : Document) (p : Domain → Prop) :
    (∀ d ∈ doc.parts, p d) ↔ p doc.domain ∧ ∀ filter ∈ doc.filters, p filter :=
  List.forall_mem_cons

theorem partsRead_iff {doc : Document} :
    doc.PartsRead ↔
      (∃ raw, doc.domain = .ofValue raw) ∧ ∀ filter ∈ doc.filters, ∃ raw, filter = .ofValue raw :=
  forall_parts_iff doc fun d => ∃ raw, d = .ofValue raw

theorem PartsRead.readable {doc : Document} (h : doc.PartsRead) :
    ∀ d ∈ doc.parts, d.Readable := by
  intro d hd
  obtain ⟨raw, rfl⟩ := h d hd
  exact Domain.readable_ofValue raw

/-- With filters, the combined domain is the product of all parts, each of them reread. -/
theorem PartsRead.combined_eq_productAll {doc : Document} (h : doc.PartsRead)
    (hfilters : doc.filters ≠ []) :
    doc.combined = doc.domain.reread.productAll (doc.filters.map Domain.reread) := by
  have hreadable := (forall_parts_iff doc Domain.Readable).mp h.readable
  exact Domain.mergeAll_eq_productAll hreadable.1 hreadable.2 hfilters

theorem evaluate_combined_of_no_filters {doc : Document} (h : doc.filters = []) (ctx : Context) :
    doc.combined.evaluate ctx = .ok true ↔ ∀ d ∈ doc.parts, d.evaluate ctx = .ok true := by
  simp only [combined, parts, h, List.forall_mem_singleton]
  rfl

/-- **`evaluate_combined_iff`** — with filters, the combined domain is the conjunction of the parts
with their sought nulls as text. -/
theorem evaluate_combined_iff {doc : Document} (hread : doc.PartsRead)
    (hsupported : doc.PartsSupported) (hfilters : doc.filters ≠ []) (ctx : Context) :
    doc.combined.evaluate ctx = .ok true ↔
      ∀ d ∈ doc.parts, d.soughtNullsAsText.evaluate ctx = .ok true := by
  rw [hread.combined_eq_productAll hfilters, Domain.evaluate_productAll_eq_ok_true_iff,
    ← List.map_cons, List.forall_mem_map]
  constructor
  · intro h d hd
    exact (Domain.evaluate_reread_eq_ok_true_iff (hsupported d hd)).mp (h d hd)
  · intro h d hd
    exact (Domain.evaluate_reread_eq_ok_true_iff (hsupported d hd)).mpr (h d hd)

/-! ## §B The combined domain as conjunction of the parts -/

/-- **`combined_is_conjunction_iff`** — the combined domain holds in a context exactly if the domain
and every filter do, if and only if there is no filter or reading the sought nulls as text makes no
difference to whether all of the parts hold. -/
theorem combined_is_conjunction_iff {doc : Document} (hread : doc.PartsRead)
    (hsupported : doc.PartsSupported) (ctx : Context) :
    (doc.combined.evaluate ctx = .ok true ↔
        doc.domain.evaluate ctx = .ok true ∧
          ∀ filter ∈ doc.filters, filter.evaluate ctx = .ok true) ↔
      doc.filters = [] ∨
        ((∀ d ∈ doc.parts, d.soughtNullsAsText.evaluate ctx = .ok true) ↔
          ∀ d ∈ doc.parts, d.evaluate ctx = .ok true) := by
  rw [← forall_parts_iff doc fun d => d.evaluate ctx = .ok true]
  by_cases hfilters : doc.filters = []
  · simp only [evaluate_combined_of_no_filters hfilters, hfilters, true_or]
  · rw [evaluate_combined_iff hread hsupported hfilters ctx]
    simp only [hfilters, false_or]

/-- A null is asked for by `is` in the domain and by `=` in the filter. -/
def nullAsked : Document where
  domain := .ofValue (.array [.string "closed", .string "is", .null])
  filters := [.ofValue (.array [.string "owner", .string "=", .null])]

/-- A null is looked for among the items of `f`, and the filter asks for something else. -/
def nullSought : Document where
  domain := .ofValue (.array [.string "f", .string "in", .null])
  filters := [.ofValue (.array [.string "g", .string "=", .string "x"])]

/-- Every field that the two documents name, most of them null. -/
def nullFields : Context :=
  Records.atYearZero
    { object := [("closed", .null), ("f", .null), ("g", .string "x"), ("owner", .null)] }

theorem nullAsked_read : nullAsked.PartsRead := by
  intro d hd
  rcases List.mem_cons.mp hd with rfl | hd
  · exact ⟨.array [.string "closed", .string "is", .null], rfl⟩
  · exact ⟨_, List.mem_singleton.mp hd⟩

theorem nullSought_read : nullSought.PartsRead := by
  intro d hd
  rcases List.mem_cons.mp hd with rfl | hd
  · exact ⟨.array [.string "f", .string "in", .null], rfl⟩
  · exact ⟨_, List.mem_singleton.mp hd⟩

/-- Nulls that nobody looks for among items stay what they mean. -/
theorem combined_is_conjunction_of_nullAsked :
    nullAsked.PartsRead ∧ nullAsked.PartsSupported ∧
      (nullAsked.combined.evaluate nullFields = .ok true ↔
        nullAsked.domain.evaluate nullFields = .ok true ∧
          ∀ filter ∈ nullAsked.filters, filter.evaluate nullFields = .ok true) := by
  have hsupported : nullAsked.PartsSupported := by
    unfold PartsSupported
    decide
  refine ⟨nullAsked_read, hsupported, ?_⟩
  apply (combined_is_conjunction_iff nullAsked_read hsupported nullFields).mpr
  -- no null of it is sought, so both sides ask the same of each part
  refine .inr (forall₂_congr fun d hd => ?_)
  rcases List.mem_cons.mp hd with rfl | hd
  · rfl
  · rw [List.mem_singleton.mp hd]
    rfl

/-- Both parts hold of the fields, and combined they do not: the null field is among the items of
`[null]` and not among those of `["null"]`. -/
theorem combined_not_conjunction_of_nullSought :
    nullSought.PartsRead ∧ nullSought.PartsSupported ∧
      nullSought.domain.evaluate nullFields = .ok true ∧
      (∀ filter ∈ nullSought.filters, filter.evaluate nullFields = .ok true) ∧
      nullSought.combined.evaluate nullFields = .ok false := by
  have hsupported : nullSought.PartsSupported := by
    unfold PartsSupported
    decide
  refine ⟨nullSought_read, hsupported, rfl, ?_, rfl⟩
  intro filter hfilter
  rw [List.mem_singleton.mp hfilter]
  rfl

/-- Where no null value stands under a membership operator, the document means what it promises. -/
theorem combined_is_conjunction_of_no_null {doc : Document} (hread : doc.PartsRead)
    (hsupported : doc.PartsSupported)
    (hnull : ∀ d ∈ doc.parts, ∀ c ∈ d.conditions, c.value = .null →
      c.operator.isMembership = false) (ctx : Context) :
    doc.combined.evaluate ctx = .ok true ↔ ∀ d ∈ doc.parts, d.evaluate ctx = .ok true := by
  by_cases hfilters : doc.filters = []
  · exact evaluate_combined_of_no_filters hfilters ctx
  · rw [evaluate_combined_iff hread hsupported hfilters ctx]
    constructor
    · intro h d hd
      rw [← Domain.soughtNullsAsText_eq_self (hnull d hd)]
      exact h d hd
    · intro h d hd
      rw [Domain.soughtNullsAsText_eq_self (hnull d hd)]
      exact h d hd

/-! ## §C The order and the repetition of filters -/

/-- **`combined_verdict_of_same_filters`** — two documents with the same domain and the same filters,
in any order and any of them any number of times, have combined domains that say the same in every
context, whatever their operators and nulls are: both hold, both do not, or both leave the calendar
with a date. Tested by themselves they say the same too. -/
theorem combined_verdict_of_same_filters {doc other : Document} (hread : doc.PartsRead)
    (hdomain : other.domain = doc.domain) (hfilters : ∀ f, f ∈ other.filters ↔ f ∈ doc.filters)
    (ctx : Context) :
    (other.combined.evaluate ctx).toOption = (doc.combined.evaluate ctx).toOption
      ∧ other.combined.test = doc.combined.test := by
  have hotherNil : other.filters = [] ↔ doc.filters = [] := by
    simp only [List.eq_nil_iff_forall_not_mem, hfilters]
  by_cases hnil : doc.filters = []
  · -- no filter on either side, and so the same domain
    have hsame : other.combined = doc.combined := by
      rw [combined, combined, hdomain, hotherNil.mpr hnil, hnil]
    rw [hsame]
    exact ⟨rfl, rfl⟩
  · have hotherRead : other.PartsRead := by
      obtain ⟨hdomainRead, hfiltersRead⟩ := partsRead_iff.mp hread
      rw [partsRead_iff, hdomain]
      exact ⟨hdomainRead, fun f hf => hfiltersRead f ((hfilters f).mp hf)⟩
    -- rereading keeps which filters there are
    have hmembers : ∀ e, e ∈ other.filters.map Domain.reread ↔
        e ∈ doc.filters.map Domain.reread := by
      intro e
      simp only [List.mem_map, hfilters]
    rw [hotherRead.combined_eq_productAll (mt hotherNil.mp hnil),
      hread.combined_eq_productAll hnil, hdomain]
    constructor
    · exact Domain.toOption_evaluate_productAll_congr hmembers ctx
    · simp only [Domain.test_eq_holdsBy]
      exact Domain.holdsBy_productAll_congr hmembers Condition.verdict

/-- Drafts. -/
def drafts : Value := .array [.string "state", .string "=", .string "draft"]

/-- What is the user's own or open to all. -/
def ownOrPublic : Value :=
  .array [.array [.array [.string "owner", .string "=", .string "user.id"]],
    .array [.array [.string "public", .string "is", .bool true]]]

/-- What is in no category. -/
def uncategorized : Value := .array [.string "category", .string "is", .null]

/-- Drafts through two filters. -/
def filtered : Document where
  domain := .ofValue drafts
  filters := [.ofValue ownOrPublic, .ofValue uncategorized]

/-- The same filters the other way round, both of them twice. -/
def filteredAgain : Document where
  domain := .ofValue drafts
  filters := [.ofValue uncategorized, .ofValue ownOrPublic, .ofValue uncategorized,
    .ofValue ownOrPublic]

/-- A public draft without a category, for nobody. -/
def publicDraft : Context :=
  Records.atYearZero
    { object := [("category", .null), ("public", .bool true), ("state", .string "draft")] }

theorem filtered_read : filtered.PartsRead := by
  refine partsRead_iff.mpr ⟨⟨drafts, rfl⟩, ?_⟩
  intro f hf
  rcases List.mem_cons.mp hf with rfl | hf
  · exact ⟨ownOrPublic, rfl⟩
  · exact ⟨uncategorized, List.mem_singleton.mp hf⟩

/-- Four clauses against two, with an owner that refers to nothing, and both hold. -/
theorem combined_verdict_of_filteredAgain :
    filtered.PartsRead ∧ filteredAgain.domain = filtered.domain
      ∧ (∀ f, f ∈ filteredAgain.filters ↔ f ∈ filtered.filters)
      ∧ filteredAgain.combined.clauses.length = 4 ∧ filtered.combined.clauses.length = 2
      ∧ (filteredAgain.combined.evaluate publicDraft).toOption
          = (filtered.combined.evaluate publicDraft).toOption
      ∧ filteredAgain.combined.test = filtered.combined.test
      ∧ filtered.combined.evaluate publicDraft = .ok true := by
  have hmembers : ∀ f, f ∈ filteredAgain.filters ↔ f ∈ filtered.filters := by
    intro f
    simp only [filteredAgain, filtered, List.mem_cons, List.not_mem_nil, or_false]
    constructor
    · rintro (h | h | h | h)
      · exact .inr h
      · exact .inl h
      · exact .inr h
      · exact .inl h
    · rintro (h | h)
      · exact .inr (.inl h)
      · exact .inl h
  have hdomain : filteredAgain.domain = filtered.domain := rfl
  have hverdicts := combined_verdict_of_same_filters filtered_read hdomain hmembers publicDraft
  exact ⟨filtered_read, hdomain, hmembers, rfl, rfl, hverdicts.1, hverdicts.2, rfl⟩

end DomainFilter.Document
