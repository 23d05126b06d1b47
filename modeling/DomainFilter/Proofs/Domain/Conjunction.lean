/-
# DomainFilter.Proofs.Domain.Conjunction — merging as conjunction

The product of two domains holds exactly where both of them do. A merge is the product read back
from its array form, and so it is the conjunction of its sides as far as reading back keeps them: of
any two that survive their array form, and of none if the product is not recognized as a domain.

* §A The product is the conjunction of the two sides, whatever their conditions say.
* §B **`holdsBy_productAll`** — a product of any number of domains is the conjunction of them all, so
  neither the order of its factors matters nor how often one occurs.
* §C **`merge_verdicts_of_canonical`** — for domains that survive their array form a merge is
  exactly the conjunction.
* §D **`merge_narrows_iff`** — for domains of any operators that tokens name: a merge narrows unless
  the leading condition of the product has an unsupported token. In that case nothing is read back,
  the merge holds of every record, and `merge_widens_drafts` is a merge that widens.
-/
import Mathlib.Data.Option.NAry
import DomainFilter.Proofs.Domain.Product
import DomainFilter.Proofs.Verdict.Clauses

namespace DomainFilter

namespace Domain

/-! ## §A The product as conjunction -/

/-- **`holdsBy_product`** — a disjunction of conjunctions distributes: the product holds exactly if
both sides do, also where conditions say nothing and where clauses are empty. -/
theorem holdsBy_product (saying : Condition → Option Bool) (d other : Domain) :
    (d.product other).holdsBy saying = (d.holdsBy saying && other.holdsBy saying) := by
  by_cases hd : d.clauses = []
  · simp [product_of_receiver_empty hd, holdsBy, hd, Verdict.ofClauses]
  · by_cases hother : other.clauses = []
    · simp [product_of_other_empty hother, holdsBy, hother, Verdict.ofClauses]
    · rw [Bool.eq_iff_iff, Bool.and_eq_true]
      simp only [holdsBy_iff, product_clauses_eq_nil_iff, hd, hother, false_and, false_or,
        mem_clauses_product hd hother]
      constructor
      · -- a clause of the product holds through both of its parts
        rintro ⟨clause, ⟨x, hx, y, hy, rfl⟩, h⟩
        rw [Clause.holdsBy_append, Bool.and_eq_true] at h
        exact ⟨⟨y, hy, h.2⟩, x, hx, h.1⟩
      · -- the two clauses that hold meet in one of the product
        rintro ⟨⟨y, hy, hyholds⟩, x, hx, hxholds⟩
        refine ⟨_, ⟨x, hx, y, hy, rfl⟩, ?_⟩
        rw [Clause.holdsBy_append, Bool.and_eq_true]
        exact ⟨hxholds, hyholds⟩

theorem datesInCalendar_product {ctx : Context} {d other : Domain} :
    (d.product other).DatesInCalendar ctx ↔ d.DatesInCalendar ctx ∧ other.DatesInCalendar ctx := by
  simp only [DatesInCalendar, mem_conditions_product]
  constructor
  · intro h
    exact ⟨fun c hc => h c (.inr hc), fun c hc => h c (.inl hc)⟩
  · rintro ⟨hd, hother⟩ c (hc | hc)
    · exact hother c hc
    · exact hd c hc

theorem evaluate_product_eq_ok_true_iff {ctx : Context} {d other : Domain} :
    (d.product other).evaluate ctx = .ok true ↔
      d.evaluate ctx = .ok true ∧ other.evaluate ctx = .ok true := by
  simp only [evaluate_eq_ok_iff, datesInCalendar_product, holdsBy_product, Bool.and_eq_true]
  exact and_and_and_comm

theorem toOption_evaluate_product (ctx : Context) (d other : Domain) :
    ((d.product other).evaluate ctx).toOption
      = Option.map₂ (· && ·) (d.evaluate ctx).toOption (other.evaluate ctx).toOption := by
  apply Option.ext
  intro verdict
  rw [toOption_evaluate_eq_some_iff, datesInCalendar_product, holdsBy_product,
    Option.map₂_eq_some_iff]
  simp only [Option.mem_def, toOption_evaluate_eq_some_iff]
  constructor
  · rintro ⟨⟨hd, hother⟩, hverdict⟩
    exact ⟨_, _, ⟨hd, rfl⟩, ⟨hother, rfl⟩, hverdict⟩
  · rintro ⟨_, _, ⟨hd, rfl⟩, ⟨hother, rfl⟩, hverdict⟩
    exact ⟨⟨hd, hother⟩, hverdict⟩

/-! ## §B The product of any number of domains -/

/-- **`holdsBy_productAll`** — the product of a domain with others holds exactly if all of them do. -/
theorem holdsBy_productAll (saying : Condition → Option Bool) (d : Domain) (others : List Domain) :
    (d.productAll others).holdsBy saying = (d :: others).all (·.holdsBy saying) := by
  -- the first factor varies: it is the product so far
  induction others generalizing d with
  | nil => simp only [productAll, List.foldl_nil, List.all_cons, List.all_nil, Bool.and_true]
  | cons other others ih =>
    rw [productAll_cons, ih]
    simp only [List.all_cons, holdsBy_product, Bool.and_assoc]

theorem datesInCalendar_productAll {ctx : Context} {d : Domain} {others : List Domain} :
    (d.productAll others).DatesInCalendar ctx ↔ ∀ e ∈ d :: others, e.DatesInCalendar ctx := by
  induction others generalizing d with
  | nil => simp only [productAll, List.foldl_nil, List.forall_mem_singleton]
  | cons other others ih =>
    rw [productAll_cons, ih]
    simp only [List.forall_mem_cons, datesInCalendar_product, and_assoc]

theorem evaluate_productAll_eq_ok_true_iff {ctx : Context} {d : Domain} {others : List Domain} :
    (d.productAll others).evaluate ctx = .ok true ↔
      ∀ e ∈ d :: others, e.evaluate ctx = .ok true := by
  simp only [evaluate_eq_ok_iff, datesInCalendar_productAll, holdsBy_productAll,
    List.all_eq_true, imp_and, forall_and]

section SameMembers

variable {d : Domain} {xs ys : List Domain} (hsame : ∀ e, e ∈ xs ↔ e ∈ ys)

include hsame

theorem holdsBy_productAll_congr (saying : Condition → Option Bool) :
    (d.productAll xs).holdsBy saying = (d.productAll ys).holdsBy saying := by
  rw [Bool.eq_iff_iff]
  simp only [holdsBy_productAll, List.all_eq_true, List.forall_mem_cons, hsame]

theorem toOption_evaluate_productAll_congr (ctx : Context) :
    ((d.productAll xs).evaluate ctx).toOption = ((d.productAll ys).evaluate ctx).toOption := by
  have hdates : (d.productAll xs).DatesInCalendar ctx ↔ (d.productAll ys).DatesInCalendar ctx := by
    simp only [datesInCalendar_productAll, List.forall_mem_cons, hsame]
  apply Option.ext
  intro verdict
  rw [toOption_evaluate_eq_some_iff, toOption_evaluate_eq_some_iff, hdates,
    holdsBy_productAll_congr hsame]

end SameMembers

/-! ## §C Canonical domains -/

/-- **`merge_verdicts_of_canonical`** — a merge of canonical domains says in every context what both
of them say together, conditions that say nothing included; it has no verdict, because a date leaves
the calendar, exactly if one of them has none. Tested by itself it is their conjunction too. -/
theorem merge_verdicts_of_canonical {receiver other : Domain} (hreceiver : receiver.Canonical)
    (hother : other.Canonical) (ctx : Context) :
    ((receiver.merge other).evaluate ctx).toOption
        = Option.map₂ (· && ·) (receiver.evaluate ctx).toOption (other.evaluate ctx).toOption
      ∧ (receiver.merge other).test = (receiver.test && other.test) := by
  have hmerge : receiver.merge other = receiver.product other := by
    rw [merge_of_readable hreceiver.readable hother.readable, reread_product,
      hreceiver.reread_eq, hother.reread_eq]
  -- nothing of the array form is left, so only the product has to be judged
  rw [hmerge]
  constructor
  · exact toOption_evaluate_product ctx receiver other
  · simp only [test_eq_holdsBy, holdsBy_product]

/-- The user's own drafts, and whatever is not archived. -/
def ownDrafts : Domain :=
  ⟨[⟨[⟨.string "state", .eq, .string "draft"⟩, ⟨.string "owner", .eq, .string "user.id"⟩]⟩,
    ⟨[⟨.string "archived", .isNot, .bool true⟩]⟩]⟩

/-- What has the tag, or anything. -/
def urgentOrAny : Domain := ⟨[⟨[⟨.string "tags", .contains, .string "urgent"⟩]⟩, ⟨[]⟩]⟩

/-- An archived draft, evaluated for nobody. -/
def archivedDraft : Context :=
  Records.atYearZero { object := [("archived", .bool true), ("state", .string "draft")] }

/-- Without a user the owner is unresolved, and without tags there is no list to look into: both
conditions say nothing, and the merge holds. -/
theorem merge_verdicts_of_ownDrafts :
    ownDrafts.Canonical ∧ urgentOrAny.Canonical
      ∧ ((ownDrafts.merge urgentOrAny).evaluate archivedDraft).toOption = some true
      ∧ (ownDrafts.merge urgentOrAny).test = false := by
  have hown : ownDrafts.Canonical := rfl
  have hany : urgentOrAny.Canonical := rfl
  have hverdicts := merge_verdicts_of_canonical hown hany archivedDraft
  exact ⟨hown, hany, hverdicts.1.trans rfl, hverdicts.2.trans rfl⟩

/-! ## §D Domains of any operators that tokens name -/

/-- **`merge_narrows_iff`** — a merge that holds narrows both sides exactly if the leading condition
of the product has a supported token, or if both sides hold anyway. The product is led by the other
side's leading condition, or by the receiver's if the other side has none. -/
theorem merge_narrows_iff {receiver other : Domain} (hreceiver : receiver.Spelt)
    (hother : other.Spelt) (ctx : Context) :
    ((receiver.merge other).evaluate ctx = .ok true →
        receiver.evaluate ctx = .ok true ∧ other.evaluate ctx = .ok true) ↔
      (∃ c, other.leading?.or receiver.leading? = some c
          ∧ Operator.isKnown c.operator.token = true)
        ∨ (receiver.evaluate ctx = .ok true ∧ other.evaluate ctx = .ok true) := by
  have hlead : (receiver.product other).Recognized ↔
      ∃ c, other.leading?.or receiver.leading? = some c
        ∧ Operator.isKnown c.operator.token = true := by
    rw [Recognized, leading?_product]
  rw [← hlead, merge_eq]
  by_cases hrecognized : (receiver.product other).Recognized
  · -- read back as it is, so the merge is the conjunction
    rw [ofValue_toValue hrecognized, reread_product, hreceiver.reread_eq, hother.reread_eq,
      evaluate_product_eq_ok_true_iff]
    exact ⟨fun _ => .inl hrecognized, fun _ => id⟩
  · -- read back as the empty domain, which narrows nothing
    rw [ofValue_toValue_of_not_recognized hrecognized, evaluate_empty]
    constructor
    · intro hnarrows
      exact .inr (hnarrows rfl)
    · rintro (h | hboth) _
      · exact absurd h hrecognized
      · exact hboth

/-- One condition with a supported token. -/
def drafts : Domain := ⟨[⟨[⟨.string "state", .eq, .string "draft"⟩]⟩]⟩

/-- One condition with a token outside the set. -/
def matched : Domain := ⟨[⟨[⟨.string "x", .unsupported "=~", .number (Binary64.ofNat 1)⟩]⟩]⟩

/-- A draft and nothing else. -/
def draft : Context := Records.atYearZero { object := [("state", .string "draft")] }

theorem drafts_spelt : drafts.Spelt := by
  intro c hc
  rw [List.mem_singleton.mp hc]
  exact ⟨⟨"=", rfl⟩, by simp⟩

theorem matched_spelt : matched.Spelt := by
  intro c hc
  rw [List.mem_singleton.mp hc]
  exact ⟨⟨"=~", rfl⟩, by simp⟩

/-- The same, or a draft. -/
def matchedOrDraft : Domain := matched.addClause ⟨[⟨.string "state", .eq, .string "draft"⟩]⟩

theorem matchedOrDraft_spelt : matchedOrDraft.Spelt := by
  intro c hc
  rcases List.mem_cons.mp hc with rfl | hc
  · exact matched_spelt _ List.mem_cons_self
  · exact drafts_spelt _ hc

/-- The receiver may be led by any token while the other side leads the product. The merge holds of
a draft, and so do both sides. -/
theorem merge_narrows_matched :
    matchedOrDraft.Spelt ∧ drafts.Spelt ∧
      (matchedOrDraft.merge drafts).evaluate draft = .ok true ∧
      matchedOrDraft.evaluate draft = .ok true ∧ drafts.evaluate draft = .ok true := by
  have hmerged : (matchedOrDraft.merge drafts).evaluate draft = .ok true := rfl
  refine ⟨matchedOrDraft_spelt, drafts_spelt, hmerged, ?_⟩
  exact (merge_narrows_iff matchedOrDraft_spelt drafts_spelt draft).mpr (.inl ⟨_, rfl, rfl⟩) hmerged

/-- With the unsupported token in the lead the merge holds of a record that the other side does not
hold of. -/
theorem merge_widens_drafts :
    drafts.Spelt ∧ matched.Spelt ∧
      ¬ ((drafts.merge matched).evaluate draft = .ok true →
        drafts.evaluate draft = .ok true ∧ matched.evaluate draft = .ok true) := by
  refine ⟨drafts_spelt, matched_spelt, ?_⟩
  intro hnarrows
  have hmatched : matched.evaluate draft = .ok true := (hnarrows rfl).2
  have hrefused : matched.evaluate draft = .ok false := rfl
  rw [hrefused] at hmatched
  cases hmatched

end Domain

end DomainFilter
