/-
# DomainFilter.Number.Numeral — reading a text as a number

The numerals that a text may hold where a number is wanted: decimal digits with an optional sign,
an optional point with digits on at least one side, an optional exponent; or `inf`, `infinity` and
`nan` in any case. The number is the one nearest to the numeral, infinite if it is too great.
-/
import DomainFilter.Number.Rounding
import DomainFilter.Number.Digits

namespace DomainFilter.Numeral

/-- The sign at the start of a text, and the text after it. -/
def takeSign : List Char → Bool × List Char
  | '+' :: s => (false, s)
  | '-' :: s => (true, s)
  | s => (false, s)

/-- The digits after a point at the start of a text, if there is one, and the text after them. -/
def takeFraction : List Char → List Char × List Char
  | '.' :: s => s.span Char.isDigit
  | s => ([], s)

/-- The integer that a whole text says: decimal digits with an optional sign. -/
def integer? (s : List Char) : Option Int :=
  let (negative, digits) := takeSign s
  if digits ≠ [] ∧ digits.all Char.isDigit then
    some (if negative then -(Digits.read digits : Int) else Digits.read digits)
  else none

/-- The exponent that makes up a whole text: nothing, or `e` with an integer. -/
def exponent? : List Char → Option Int
  | [] => some 0
  | c :: s => if c = 'e' ∨ c = 'E' then integer? s else none

/-- The magnitude that an unsigned numeral says. -/
def magnitude? (s : List Char) : Option Magnitude :=
  let (whole, s) := s.span Char.isDigit
  let (fraction, s) := takeFraction s
  if whole ++ fraction = [] then none
  else (exponent? s).map fun exponent =>
    Binary64.ofDecimal (Digits.read (whole ++ fraction)) (whole ++ fraction).length
      (exponent - fraction.length)

/-- The texts of infinity, in lower case. -/
def infinityTexts : List (List Char) := ["inf".toList, "infinity".toList]

/-- The text of not-a-number, in lower case. -/
def nanText : List Char := "nan".toList

/-- The number that a whole text says. -/
def read? (s : List Char) : Option Binary64 :=
  let (negative, s) := takeSign s
  let small := s.map Char.toLower
  if small = nanText then some .nan
  else if small ∈ infinityTexts then some (.signed negative Binary64.infinity)
  else (magnitude? s).map (.signed negative)

end DomainFilter.Numeral
