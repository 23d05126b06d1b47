/-
# DomainFilter.Domain.Merge — the conjunction of two domains

`(A₁ ∨ A₂) ∧ (B₁ ∨ B₂)` is `(A₁ ∧ B₁) ∨ (A₁ ∧ B₂) ∨ (A₂ ∧ B₁) ∨ (A₂ ∧ B₂)`. The merged clauses run
over the other domain's clauses, and for each of them over the receiver's; each lists the other's
conditions first. A domain without clauses adds nothing, so the other side is the result.

The product is made of array forms and read back as a domain, so what does not survive the array
form does not survive a merge either.
-/
import DomainFilter.Domain.Shape

namespace DomainFilter.Domain

/-- The array forms of the conditions of each clause. -/
def clauseArrays (d : Domain) : List (List Value) :=
  d.clauses.map fun clause => clause.conditions.map Condition.toValue

/-- Every list of `outer` with every list of `inner` after it; an empty side gives the other. -/
def crossProduct {α : Type} (outer inner : List (List α)) : List (List α) :=
  if outer.isEmpty then inner
  else if inner.isEmpty then outer
  else outer.flatMap fun a => inner.map fun b => a ++ b

/-- The receiver and the other domain together. -/
def merge (d other : Domain) : Domain :=
  ofValue (.array ((crossProduct other.clauseArrays d.clauseArrays).map .array))

/-- A domain with others merged into it, in order. -/
def mergeAll (d : Domain) (others : List Domain) : Domain := others.foldl merge d

end DomainFilter.Domain
