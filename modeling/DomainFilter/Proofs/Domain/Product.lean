/-
# DomainFilter.Proofs.Domain.Product — merging as an ordered product

A merge makes the product of two lists of clauses, writes it as an array and reads the array back.
`Domain.product` is that product as a domain, so a merge is the reread product as long as the
product has a supported token in the lead, and the empty domain otherwise.

* §A The product of two lists of lists, associative and with the empty list as its neutral element.
* §B `Domain.product`: its clauses, its conditions, its leading condition, its array form.
* §C Merging sides that can be read back: rereading comes last, whatever was reread before.
* §D Merging one domain after another is one product of all of them, reread once.
* §E **`merge_orderedProduct_assoc`** — which clauses a merge makes of domains that were read, in
  which order, and that three of them can be merged in either grouping.
-/
import DomainFilter.Domain.Merge
import DomainFilter.Proofs.Domain.Reread

namespace DomainFilter

namespace Domain

/-! ## §A The product of two lists of lists -/

section CrossProduct

variable {α : Type}

theorem crossProduct_nil_left (inner : List (List α)) : crossProduct [] inner = inner := rfl

theorem crossProduct_nil_right (outer : List (List α)) : crossProduct outer [] = outer := by
  cases outer <;> rfl

theorem crossProduct_of_ne_nil {outer inner : List (List α)} (houter : outer ≠ [])
    (hinner : inner ≠ []) :
    crossProduct outer inner = outer.flatMap fun a => inner.map fun b => a ++ b := by
  rw [crossProduct, List.isEmpty_eq_false_iff.mpr houter, List.isEmpty_eq_false_iff.mpr hinner]
  rfl

theorem crossProduct_ne_nil {outer inner : List (List α)} (houter : outer ≠ [])
    (hinner : inner ≠ []) : crossProduct outer inner ≠ [] := by
  obtain ⟨a, ha⟩ := List.exists_mem_of_ne_nil _ houter
  rw [crossProduct_of_ne_nil houter hinner]
  intro hnil
  exact hinner (List.map_eq_nil_iff.mp (List.flatMap_eq_nil_iff.mp hnil a ha))

/-- Each list of `xs`, after it each of `ys`, after that each of `zs`, in this order of loops
whichever two are joined first. -/
theorem crossProduct_assoc (xs ys zs : List (List α)) :
    crossProduct (crossProduct xs ys) zs = crossProduct xs (crossProduct ys zs) := by
  -- where one of the three is empty, both sides are the product of the other two
  by_cases hxs : xs = []
  · rw [hxs, crossProduct_nil_left, crossProduct_nil_left]
  by_cases hys : ys = []
  · rw [hys, crossProduct_nil_right, crossProduct_nil_left]
  by_cases hzs : zs = []
  · rw [hzs, crossProduct_nil_right, crossProduct_nil_right]
  have hleft : crossProduct xs ys ≠ [] := crossProduct_ne_nil hxs hys
  have hright : crossProduct ys zs ≠ [] := crossProduct_ne_nil hys hzs
  rw [crossProduct_of_ne_nil hleft hzs, crossProduct_of_ne_nil hxs hys,
    crossProduct_of_ne_nil hxs hright, crossProduct_of_ne_nil hys hzs]
  simp only [List.flatMap_assoc, List.flatMap_map, List.map_flatMap, List.map_map,
    Function.comp_def, List.append_assoc]

theorem map_crossProduct {β : Type} (f : α → β) (outer inner : List (List α)) :
    (crossProduct outer inner).map (List.map f)
      = crossProduct (outer.map (List.map f)) (inner.map (List.map f)) := by
  unfold crossProduct
  simp only [List.isEmpty_map]
  split
  · rfl
  · split
    · rfl
    · simp only [List.map_flatMap, List.flatMap_map, List.map_map]
      congr 1
      funext a
      apply List.map_congr_left
      intro b _
      exact List.map_append

end CrossProduct

/-! ## §B The product of two domains -/

/-- The clauses of the other side, each followed by each of the receiver's; a side without clauses
adds nothing. -/
def product (d other : Domain) : Domain :=
  ⟨(crossProduct (other.clauses.map Clause.conditions) (d.clauses.map Clause.conditions)).map
    Clause.mk⟩

theorem map_conditions_product (d other : Domain) :
    (d.product other).clauses.map Clause.conditions
      = crossProduct (other.clauses.map Clause.conditions) (d.clauses.map Clause.conditions) := by
  rw [product, List.map_map]
  exact List.map_id _

theorem mk_conditions (d : Domain) : ⟨(d.clauses.map Clause.conditions).map Clause.mk⟩ = d := by
  rw [List.map_map]
  exact congrArg Domain.mk (List.map_id d.clauses)

theorem product_of_other_empty {d other : Domain} (h : other.clauses = []) :
    d.product other = d := by
  rw [product, h]
  exact mk_conditions d

theorem product_of_receiver_empty {d other : Domain} (h : d.clauses = []) :
    d.product other = other := by
  rw [product, h, List.map_nil, crossProduct_nil_right]
  exact mk_conditions other

theorem clauses_product {d other : Domain} (hd : d.clauses ≠ []) (hother : other.clauses ≠ []) :
    (d.product other).clauses
      = other.clauses.flatMap fun x => d.clauses.map fun y => ⟨x.conditions ++ y.conditions⟩ := by
  have hdConditions : d.clauses.map Clause.conditions ≠ [] := mt List.map_eq_nil_iff.mp hd
  have hotherConditions : other.clauses.map Clause.conditions ≠ [] :=
    mt List.map_eq_nil_iff.mp hother
  simp only [product, crossProduct_of_ne_nil hotherConditions hdConditions, List.map_flatMap,
    List.flatMap_map, List.map_map, Function.comp_def]

theorem mem_clauses_product {d other : Domain} (hd : d.clauses ≠ []) (hother : other.clauses ≠ [])
    {clause : Clause} :
    clause ∈ (d.product other).clauses ↔
      ∃ x ∈ other.clauses, ∃ y ∈ d.clauses, ⟨x.conditions ++ y.conditions⟩ = clause := by
  rw [clauses_product hd hother]
  simp only [List.mem_flatMap, List.mem_map]

theorem product_clauses_eq_nil_iff {d other : Domain} :
    (d.product other).clauses = [] ↔ d.clauses = [] ∧ other.clauses = [] := by
  by_cases hd : d.clauses = []
  · simp [product_of_receiver_empty hd, hd]
  · by_cases hother : other.clauses = []
    · simp [product_of_other_empty hother, hother]
    · obtain ⟨x, hx⟩ := List.exists_mem_of_ne_nil _ hother
      simp only [clauses_product hd hother, hd, List.flatMap_eq_nil_iff, List.map_eq_nil_iff,
        imp_false, false_and, iff_false]
      exact fun h => h x hx

/-- Each condition of either side stands in some clause of the product, and no other does. -/
theorem mem_conditions_product {d other : Domain} {c : Condition} :
    c ∈ (d.product other).conditions ↔ c ∈ other.conditions ∨ c ∈ d.conditions := by
  by_cases hd : d.clauses = []
  · simp [product_of_receiver_empty hd, conditions, hd]
  · by_cases hother : other.clauses = []
    · simp [product_of_other_empty hother, conditions, hother]
    · simp only [mem_conditions, mem_clauses_product hd hother]
      constructor
      · rintro ⟨clause, ⟨x, hx, y, hy, rfl⟩, hc⟩
        rcases List.mem_append.mp hc with hc | hc
        · exact .inl ⟨x, hx, hc⟩
        · exact .inr ⟨y, hy, hc⟩
      · -- a condition of one side meets any clause of the other
        rintro (⟨x, hx, hc⟩ | ⟨y, hy, hc⟩)
        · obtain ⟨y, hy⟩ := List.exists_mem_of_ne_nil _ hd
          exact ⟨_, ⟨x, hx, y, hy, rfl⟩, List.mem_append_left _ hc⟩
        · obtain ⟨x, hx⟩ := List.exists_mem_of_ne_nil _ hother
          exact ⟨_, ⟨x, hx, y, hy, rfl⟩, List.mem_append_right _ hc⟩

/-- The other side's leading condition leads, if there is one. -/
theorem leading?_product (d other : Domain) :
    (d.product other).leading? = other.leading?.or d.leading? := by
  by_cases hd : d.clauses = []
  · simp [product_of_receiver_empty hd, leading?, hd]
  · by_cases hother : other.clauses = []
    · simp [product_of_other_empty hother, leading?, hother]
    · obtain ⟨x, xs, hx⟩ := List.exists_cons_of_ne_nil hother
      obtain ⟨y, ys, hy⟩ := List.exists_cons_of_ne_nil hd
      simp [leading?, clauses_product hd hother, hx, hy, List.head?_append]

theorem mapConditions_product (change : Condition → Condition) (d other : Domain) :
    (d.product other).mapConditions change
      = (d.mapConditions change).product (other.mapConditions change) := by
  have hclauses : ∀ e : Domain, (e.mapConditions change).clauses.map Clause.conditions
      = (e.clauses.map Clause.conditions).map (List.map change) := by
    intro e
    simp only [mapConditions, List.map_map]
    rfl
  rw [product, product, hclauses, hclauses, ← map_crossProduct]
  simp only [mapConditions, List.map_map]
  rfl

theorem reread_product (d other : Domain) :
    (d.product other).reread = d.reread.product other.reread :=
  mapConditions_product Condition.reread d other

theorem product_assoc (a b c : Domain) : (a.product b).product c = a.product (b.product c) := by
  rw [product, map_conditions_product, product, map_conditions_product, crossProduct_assoc]

/-- Each of the other side's arrays, with each of the receiver's after it. -/
theorem toValue_product {d other : Domain} (hd : d.clauses ≠ []) (hother : other.clauses ≠ []) :
    (d.product other).toValue = .array (other.clauses.flatMap fun x => d.clauses.map fun y =>
      .array (x.conditions.map Condition.toValue ++ y.conditions.map Condition.toValue)) := by
  simp only [toValue, clauses_product hd hother, List.map_flatMap, List.map_map,
    Function.comp_def, Clause.toValue, List.map_append]

/-! ## §C Merging domains that can be read back -/

/-- **`merge_eq`** — a merge is the array form of the product, read back. -/
theorem merge_eq (d other : Domain) : d.merge other = ofValue (d.product other).toValue := by
  have harrays : ∀ e : Domain, e.clauseArrays
      = (e.clauses.map Clause.conditions).map (List.map Condition.toValue) := by
    intro e
    rw [clauseArrays, List.map_map]
    rfl
  rw [merge, harrays, harrays, ← map_crossProduct, List.map_map]
  unfold toValue product
  rw [List.map_map]
  rfl

theorem Readable.product {d other : Domain} (hd : d.Readable) (hother : other.Readable) :
    (d.product other).Readable := by
  rcases hd with hnil | hrecognized
  · rw [product_of_receiver_empty hnil]
    exact hother
  · rcases hother with hnil | ⟨c, hc, hknown⟩
    · rw [product_of_other_empty hnil]
      exact .inr hrecognized
    · refine .inr ⟨c, ?_, hknown⟩
      rw [leading?_product, hc]
      rfl

theorem merge_of_readable {d other : Domain} (hd : d.Readable) (hother : other.Readable) :
    d.merge other = (d.product other).reread := by
  rw [merge_eq]
  exact (hd.product hother).ofValue_toValue

/-- Between canonical domains reading back changes nothing. -/
theorem merge_of_canonical {receiver other : Domain} (hreceiver : receiver.Canonical)
    (hother : other.Canonical) : receiver.merge other = receiver.product other := by
  rw [merge_of_readable hreceiver.readable hother.readable, reread_product, hreceiver.reread_eq,
    hother.reread_eq]

theorem readable_merge (d other : Domain) : (d.merge other).Readable := by
  rw [merge_eq]
  exact readable_ofValue _

/-- What has come out of a merge comes out of its own array form. -/
theorem reread_merge (d other : Domain) : (d.merge other).reread = d.merge other := by
  rw [merge_eq]
  by_cases hrecognized : (d.product other).Recognized
  · rw [ofValue_toValue hrecognized, reread_reread]
  · -- the empty domain, with nothing to reread
    rw [ofValue_toValue_of_not_recognized hrecognized]
    rfl

/-- A side that was reread before the product is made needs no rereading of its own. -/
theorem reread_product_reread_left (d other : Domain) :
    (d.reread.product other).reread = (d.product other).reread := by
  rw [reread_product, reread_reread, ← reread_product]

theorem reread_product_reread_right (d other : Domain) :
    (d.product other.reread).reread = (d.product other).reread := by
  rw [reread_product, reread_reread, ← reread_product]

theorem merge_assoc_of_readable {a b c : Domain} (ha : a.Readable) (hb : b.Readable)
    (hc : c.Readable) : (a.merge b).merge c = a.merge (b.merge c) := by
  calc (a.merge b).merge c
      = ((a.product b).reread.product c).reread := by
        rw [merge_of_readable (readable_merge a b) hc, merge_of_readable ha hb]
    _ = ((a.product b).product c).reread := reread_product_reread_left (a.product b) c
    _ = (a.product (b.product c)).reread := by rw [product_assoc]
    _ = (a.product (b.product c).reread).reread :=
        (reread_product_reread_right a (b.product c)).symm
    _ = a.merge (b.merge c) := by
        rw [merge_of_readable ha (readable_merge b c), merge_of_readable hb hc]

/-- A merge writes what its product writes. -/
theorem toValue_merge {d other : Domain} (hd : d.Readable) (hother : other.Readable) :
    (d.merge other).toValue = (d.product other).toValue := by
  rw [merge_of_readable hd hother, toValue_reread]

/-! ## §D Merging one domain after another -/

/-- The product of a domain with others, in order. -/
def productAll (d : Domain) (others : List Domain) : Domain := others.foldl product d

theorem mergeAll_cons (d other : Domain) (others : List Domain) :
    d.mergeAll (other :: others) = (d.merge other).mergeAll others := rfl

theorem productAll_cons (d other : Domain) (others : List Domain) :
    d.productAll (other :: others) = (d.product other).productAll others := rfl

/-- The invariant of merging one domain after another: up to a last rereading, the merge so far is
the product of all sides so far, each of them reread. -/
theorem reread_mergeAll {d : Domain} {others : List Domain} (hd : d.Readable)
    (hothers : ∀ other ∈ others, other.Readable) :
    (d.mergeAll others).reread = d.reread.productAll (others.map reread) := by
  -- the receiver varies: after a step it is the merge so far, which is readable again
  induction others generalizing d with
  | nil => rfl
  | cons other others ih =>
    have hother : other.Readable := hothers other List.mem_cons_self
    have hrest : ∀ e ∈ others, e.Readable := fun e he => hothers e (List.mem_cons_of_mem _ he)
    have hstep : (d.merge other).reread = d.reread.product other.reread := by
      rw [reread_merge, merge_of_readable hd hother, reread_product]
    rw [mergeAll_cons, ih (readable_merge d other) hrest, hstep, List.map_cons, productAll_cons]

theorem reread_mergeAll_eq_self {d : Domain} {others : List Domain} (h : d.reread = d) :
    (d.mergeAll others).reread = d.mergeAll others := by
  induction others generalizing d with
  | nil => exact h
  | cons other others ih => exact ih (reread_merge d other)

/-- **`mergeAll_eq_productAll`** — once anything is merged, the last rereading changes nothing. -/
theorem mergeAll_eq_productAll {d : Domain} {others : List Domain} (hd : d.Readable)
    (hothers : ∀ other ∈ others, other.Readable) (hne : others ≠ []) :
    d.mergeAll others = d.reread.productAll (others.map reread) := by
  rw [← reread_mergeAll hd hothers]
  cases others with
  | nil => exact absurd rfl hne
  | cons other others =>
    rw [mergeAll_cons, reread_mergeAll_eq_self (reread_merge d other)]

/-! ## §E Domains that were read -/

/-- **`merge_orderedProduct_assoc`** — of domains that were read from any values, a merge writes one
clause for each pair of clauses of the two sides: for each clause of the other side, in order, and
then for each of the receiver's, first the conditions of the one and then those of the other. A side
without clauses leaves the array of the other side, which is empty if that has none either. And
three domains merged one into the other are the same domain in either grouping. -/
theorem merge_orderedProduct_assoc (first second third : Value) :
    let a := ofValue first
    let b := ofValue second
    let c := ofValue third
    ((a.merge b).toValue =
        if b.isEmpty then a.toValue
        else if a.isEmpty then b.toValue
        else .array (b.clauses.flatMap fun x => a.clauses.map fun y =>
          .array (x.conditions.map Condition.toValue ++ y.conditions.map Condition.toValue)))
      ∧ (a.merge b).merge c = a.merge (b.merge c) := by
  intro a b c
  have ha : a.Readable := readable_ofValue first
  have hb : b.Readable := readable_ofValue second
  have hc : c.Readable := readable_ofValue third
  refine ⟨?_, merge_assoc_of_readable ha hb hc⟩
  rw [toValue_merge ha hb]
  by_cases hbnil : b.clauses = []
  · rw [if_pos (isEmpty_iff.mpr hbnil), product_of_other_empty hbnil]
  · rw [if_neg (mt isEmpty_iff.mp hbnil)]
    by_cases hanil : a.clauses = []
    · rw [if_pos (isEmpty_iff.mpr hanil), product_of_receiver_empty hanil]
    · rw [if_neg (mt isEmpty_iff.mp hanil), toValue_product hanil hbnil]

end Domain

end DomainFilter
