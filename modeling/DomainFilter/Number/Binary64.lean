/-
# DomainFilter.Number.Binary64 — the numbers of a domain

Numbers are those of the IEEE 754 format binary64: not-a-number, and signed magnitudes from zero to
infinity. The program reads, compares and writes numbers and never adds them, so a magnitude is kept
by its place in increasing order, its *rank*: rank 0 is zero, rank 1 the least positive magnitude,
`infinityRank` infinity. The rank is also the encoding without its sign bit, and comparing numbers
is comparing ranks.

Every finite magnitude is a whole multiple of `2 ^ -1074`, the *unit*. `units rank` says how many,
and `rankBelow` finds the greatest rank that does not exceed a count of units.
-/

namespace DomainFilter

/-- The rank of infinity: 2047 runs of `2 ^ 52` ranks lie below it. -/
def infinityRank : Nat := 2047 * Nat.pow 2 52

/-- A magnitude, by its rank among all magnitudes. -/
abbrev Magnitude := Fin (infinityRank + 1)

/-- A number of the format binary64. There is one not-a-number and there are two zeros. -/
inductive Binary64 where
  | nan
  | signed (negative : Bool) (magnitude : Magnitude)
  deriving DecidableEq, Inhabited

namespace Binary64

/-! ## §A Ranks and units -/

/-- How many units of `2 ^ -1074` the magnitude of a rank has. Ranks come in runs of `2 ^ 52`; in
the first two runs neighbours are one unit apart, and in each later run twice as far as in the run
before. At `infinityRank` and above this continues as if the format had no end. -/
def units (rank : Nat) : Nat :=
  let scale := rank / Nat.pow 2 52 - 1
  (rank - scale * Nat.pow 2 52) * Nat.pow 2 scale

/-- The greatest rank of at most so many units. -/
def rankBelow (count : Nat) : Nat :=
  let scale := count.log2 - 52
  scale * Nat.pow 2 52 + count / Nat.pow 2 scale

/-- The units of the magnitude one. -/
def unitsOfOne : Nat := Nat.pow 2 1074

/-- The magnitude of zero. -/
def zeroMagnitude : Magnitude := 0

/-- The magnitude of infinity. -/
def infinity : Magnitude := Fin.last infinityRank

/-- The number zero, without sign. -/
def zero : Binary64 := .signed false zeroMagnitude

def isNaN : Binary64 → Bool
  | .nan => true
  | .signed _ _ => false

/-- Whether a number is zero, of either sign. -/
def isZero : Binary64 → Bool
  | .nan => false
  | .signed _ m => m == zeroMagnitude

/-- Whether a number is neither infinite nor not-a-number. -/
def isFinite : Binary64 → Bool
  | .nan => false
  | .signed _ m => m != infinity

/-! ## §B The order of numbers -/

/-- The place of a signed magnitude on the line of numbers: both zeros are at 0. -/
def position (negative : Bool) (m : Magnitude) : Int :=
  if negative then -(m.val : Int) else m.val

/-- The order of two numbers; not-a-number is in no order with anything. -/
def compare? : Binary64 → Binary64 → Option Ordering
  | .signed s m, .signed t n => some (compare (position s m) (position t n))
  | _, _ => none

/-- Numeric equality: the two zeros are equal, and not-a-number equals nothing. -/
def equals (x y : Binary64) : Bool := x.compare? y == some .eq

/-- Strictly less, as numbers. -/
def less (x y : Binary64) : Bool := x.compare? y == some .lt

/-! ## §C Whole numbers -/

/-- The greatest magnitude up to which every whole number is a number of the format, less one: the
whole numbers up to here are the ones that programs exchange exactly. -/
def greatestExact : Nat := Nat.pow 2 53 - 1

/-- The whole number that a number is, if it is one of at most `greatestExact` in magnitude. -/
def exactInt? : Binary64 → Option Int
  | .nan => none
  | .signed s m =>
    let count := units m
    if count % unitsOfOne = 0 ∧ count / unitsOfOne ≤ greatestExact then
      let n : Int := count / unitsOfOne
      some (if s then -n else n)
    else none

/-! ## §D The encoding -/

/-- The 64 bits of the encoding, read as a natural number; not-a-number has none of its own. -/
def encoding? : Binary64 → Option Nat
  | .nan => none
  | .signed s m => some (if s then Nat.pow 2 63 + m.val else m.val)

theorem compare?_swap (x y : Binary64) : (x.compare? y).map Ordering.swap = y.compare? x := by
  cases x <;> cases y <;> simp [compare?, Int.compare_swap]

/-- A number equals itself unless it is not-a-number. -/
theorem equals_self (x : Binary64) : x.equals x = !x.isNaN := by
  cases x <;> simp [equals, compare?, isNaN]

theorem less_iff {x y : Binary64} : x.less y = true ↔ x.compare? y = some .lt :=
  beq_iff_eq

theorem less_swap_iff {x y : Binary64} : y.less x = true ↔ x.compare? y = some .gt := by
  rw [less_iff, ← compare?_swap x y]
  cases x.compare? y with
  | none => exact ⟨nofun, nofun⟩
  | some order => cases order <;> decide

end Binary64

end DomainFilter
