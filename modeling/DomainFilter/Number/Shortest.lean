/-
# DomainFilter.Number.Shortest — the fewest digits that read back

A finite magnitude is written by the fewest decimal digits that are nearest to it and to no other
magnitude. For 1, 2, … 17 digits the two points of that decimal grid beside the magnitude are read
back; the first grid with a point that reads back wins, and of two such points the nearer one. When
both are equally near, the tie rule decides. Seventeen digits always suffice; the exact decimal
expansion stands behind them, so the answer reads back whatever the grids do.
-/
import DomainFilter.Number.Rounding
import DomainFilter.Number.Digits

namespace DomainFilter

/-- Which of two equally near decimals is taken. -/
inductive DecimalTie where
  /-- The greater one. -/
  | up
  /-- The one with an even last digit. -/
  | even
  deriving DecidableEq

/-- The decimal `digits * 10 ^ exponent`. -/
structure Decimal where
  digits : Nat
  exponent : Int
  deriving DecidableEq

namespace Decimal

/-- The magnitude nearest to a decimal. -/
def magnitude (d : Decimal) : Magnitude :=
  Binary64.ofDecimal d.digits (Digits.write d.digits).length d.exponent

/-- A power of ten that brings every positive magnitude above one. -/
def lift : Nat := 324

/-- The decimal exponent of a count of units: the place of its first digit. -/
def leadingExponent (count : Nat) : Int :=
  (Digits.count (count * Nat.pow 10 lift / Binary64.unitsOfOne) : Int) - 1 - lift

/-- The grid point at or below a count of units, on the multiples of `10 ^ exponent`, and twice the
distance to it compared with a step of the grid. -/
def gridBelow (count : Nat) (exponent : Int) : Nat × Ordering :=
  let num := if 0 ≤ exponent then count else count * Nat.pow 10 (-exponent).toNat
  let den := Binary64.unitsOfOne * (if 0 ≤ exponent then Nat.pow 10 exponent.toNat else 1)
  (num / den, compare (2 * (num % den)) den)

/-- The digits nearer to the magnitude, of those below and above that read back. -/
def chooseDigits (tie : DecimalTie) (below : Nat) (distance : Ordering)
    (belowReads aboveReads : Bool) : Option Nat :=
  match belowReads, aboveReads with
  | false, false => none
  | true, false => some below
  | false, true => some (below + 1)
  | true, true =>
    match distance, tie with
    | .lt, _ => some below
    | .gt, _ => some (below + 1)
    | .eq, .up => some (below + 1)
    | .eq, .even => some (below + below % 2)

/-- A decimal on the multiples of `10 ^ exponent` that reads back as the magnitude, if there is
one. -/
def onGrid? (tie : DecimalTie) (m : Magnitude) (exponent : Int) : Option Decimal :=
  let (below, distance) := gridBelow (Binary64.units m) exponent
  let reads (digits : Nat) : Bool := magnitude ⟨digits, exponent⟩ == m
  (chooseDigits tie below distance (reads below) (reads (below + 1))).map (⟨·, exponent⟩)

/-- The exact decimal expansion of a count of units. -/
def exactly (count : Nat) : Decimal := ⟨count * Nat.pow 5 1074, -1074⟩

/-- A decimal without trailing zeros, at most so many of them. -/
def dropZeros : Nat → Decimal → Decimal
  | 0, d => d
  | most + 1, d =>
    if d.digits ≠ 0 ∧ d.digits % 10 = 0 then dropZeros most ⟨d.digits / 10, d.exponent + 1⟩ else d

/-- The fewest digits that read back as a magnitude. -/
def shortest (tie : DecimalTie) (m : Magnitude) : Decimal :=
  if m = Binary64.zeroMagnitude then ⟨0, 0⟩
  else
    let leading := leadingExponent (Binary64.units m)
    let found := (List.range 17).findSome? fun n : Nat => onGrid? tie m (leading - n)
    dropZeros 17 (found.getD (exactly (Binary64.units m)))

end Decimal

end DomainFilter
