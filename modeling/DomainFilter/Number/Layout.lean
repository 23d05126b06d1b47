/-
# DomainFilter.Number.Layout — the texts of numbers

A layout says how the digits of a finite number are set: which leading exponents are written
positionally, whether a whole number keeps a point, and which of two equally near decimals is taken.
Positionally written digits have zeros up to the point and at least one digit before it; otherwise
one digit stands before the point, and the exponent has a sign and no padding.
-/
import DomainFilter.Number.Shortest

namespace DomainFilter

/-- A way of setting the digits of a number. -/
structure NumberLayout where
  /-- The leading exponents that are written positionally. -/
  positional : Int → Bool
  /-- Whether a whole number ends in a point and a zero. -/
  wholePoint : Bool
  /-- Which of two equally near decimals is taken. -/
  tie : DecimalTie

namespace NumberLayout

/-- The digits of a decimal, set positionally. -/
def setPositional (layout : NumberLayout) (d : Decimal) : List Char :=
  if 0 ≤ d.exponent then
    Digits.write d.digits ++ List.replicate d.exponent.toNat '0'
      ++ (if layout.wholePoint then ['.', '0'] else [])
  else
    let places := (-d.exponent).toNat
    let digits := Digits.writePadded (places + 1) d.digits
    digits.take (digits.length - places) ++ '.' :: digits.drop (digits.length - places)

/-- The digits of a decimal with the place of the first one as an exponent. -/
def setScientific (d : Decimal) : List Char :=
  let digits := Digits.write d.digits
  let leading : Int := digits.length - 1 + d.exponent
  digits.take 1 ++ (if digits.length ≤ 1 then [] else '.' :: digits.drop 1)
    ++ 'e' :: (if leading < 0 then '-' else '+') :: Digits.write leading.natAbs

/-- The digits of a finite magnitude. -/
def set (layout : NumberLayout) (m : Magnitude) : List Char :=
  let d := Decimal.shortest layout.tie m
  if layout.positional (((Digits.write d.digits).length : Int) - 1 + d.exponent)
  then layout.setPositional d
  else setScientific d

/-- The text of a signed finite magnitude. -/
def write (layout : NumberLayout) (negative : Bool) (m : Magnitude) : List Char :=
  if negative then '-' :: layout.set m else layout.set m

end NumberLayout

end DomainFilter
