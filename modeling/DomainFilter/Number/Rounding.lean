/-
# DomainFilter.Number.Rounding — the nearest number of the format

`nearest num den` is the magnitude nearest to `num / den` units: the rank below the quotient and the
one above it are compared with the quotient, and of two equally near ones the even rank is taken.
From the midpoint above the greatest finite magnitude on, that is infinity. Decimal numerals,
natural numbers, products and quotients are rounded through it.
-/
import DomainFilter.Number.Binary64

namespace DomainFilter.Binary64

/-- The rank nearest to a quotient of units, in the format without end. -/
def nearestRank (num den : Nat) : Nat :=
  let below := rankBelow (num / den)
  let midpoint := units below + units (below + 1)
  if 2 * num < midpoint * den then below
  else if midpoint * den < 2 * num then below + 1
  else below + below % 2

/-- The magnitude nearest to a quotient of units. -/
def nearest (num den : Nat) : Magnitude :=
  ⟨min (nearestRank num den) infinityRank, Nat.lt_succ_of_le (Nat.min_le_right _ _)⟩

/-- The magnitude nearest to a natural number. -/
def magnitudeOfNat (n : Nat) : Magnitude := nearest (n * unitsOfOne) 1

/-- The number nearest to a natural number. -/
def ofNat (n : Nat) : Binary64 := .signed false (magnitudeOfNat n)

/-- The number nearest to an integer; zero is unsigned. -/
def ofInt (n : Int) : Binary64 := .signed (decide (n < 0)) (magnitudeOfNat n.natAbs)

/-- The magnitude nearest to a product. -/
def times (x y : Magnitude) : Magnitude := nearest (units x * units y) unitsOfOne

/-- The magnitude nearest to a quotient. -/
def dividedBy (x y : Magnitude) : Magnitude := nearest (units x * unitsOfOne) (units y)

/-- A power of ten from which on every positive whole multiple is infinite. -/
def infiniteExponent : Int := 309

/-- A power of ten below which everything is nearer to zero than to the least magnitude. -/
def vanishingExponent : Int := -324

/-- The magnitude nearest to `digits * 10 ^ exponent`, where `digits < 10 ^ width`. The two bounds
on the exponent only keep the powers small: beyond them the answer is infinity or zero anyway. -/
def ofDecimal (digits width : Nat) (exponent : Int) : Magnitude :=
  if digits = 0 ∨ width + exponent ≤ vanishingExponent then zeroMagnitude
  else if infiniteExponent ≤ exponent then infinity
  else if 0 ≤ exponent then nearest (digits * Nat.pow 10 exponent.toNat * unitsOfOne) 1
  else nearest (digits * unitsOfOne) (Nat.pow 10 (-exponent).toNat)

end DomainFilter.Binary64
