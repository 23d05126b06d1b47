/-
# DomainFilter.Json.Reader — what JSON texts mean

Three limits stand between a text of the grammar and a value.

* §A A `\u` escape from the surrogate range needs its partner right behind it.
* §B A number is a whole number if it has neither point nor exponent and fits 64 bits, and otherwise
  the leading digits that fit 64 bits, scaled by a power of ten; each of the two steps rounds to the
  nearest binary64 number. A number too great for the format is refused, one too small is zero.
* §C Arrays and objects nest at most 127 deep.

Members of one key: the last one counts.
-/
import DomainFilter.Json.Basic
import DomainFilter.Json.Written
import DomainFilter.Number.Rounding

namespace DomainFilter.Json

/-! ## §A Strings -/

def isHighSurrogate (n : Nat) : Bool := 0xD800 ≤ n && n < 0xDC00

def isLowSurrogate (n : Nat) : Bool := 0xDC00 ≤ n && n < 0xE000

/-- The characters that the pieces of a string make. -/
def characters? : List Piece → Option (List Char)
  | [] => some []
  | .char c :: pieces => (characters? pieces).map (c :: ·)
  | .unit high :: pieces =>
    if isHighSurrogate high then
      match pieces with
      | .unit low :: pieces =>
        if isLowSurrogate low then
          (characters? pieces).map
            (Char.ofNat (0x10000 + (high - 0xD800) * 0x400 + (low - 0xDC00)) :: ·)
        else none
      | _ => none
    else if isLowSurrogate high then none
    else (characters? pieces).map (Char.ofNat high :: ·)

/-- The string that its pieces make. -/
def stringOf? (pieces : List Piece) : Option String := (characters? pieces).map String.ofList

/-! ## §B Numbers -/

/-- The greatest natural number of 64 bits. -/
def greatestWord : Nat := Nat.pow 2 64 - 1

/-- The number that the leading digits say, as long as it fits 64 bits, and the digits left. -/
def leadingDigits (n : Nat) : List Char → Nat × List Char
  | [] => (n, [])
  | c :: digits =>
    if 10 * n + Digits.value c ≤ greatestWord then leadingDigits (10 * n + Digits.value c) digits
    else (n, c :: digits)

/-- The greatest power of ten that one step scales by. -/
def greatestScale : Nat := 308

/-- The magnitude nearest to a power of ten. -/
def powerOfTen (exponent : Nat) : Magnitude := Binary64.magnitudeOfNat (Nat.pow 10 exponent)

/-- A natural number scaled by a power of ten: rounded, multiplied or divided, and rounded again. A
power below the least scale is divided out in two steps; two of the greatest scale leave nothing. -/
def scaled? (digits : Nat) (exponent : Int) : Option Magnitude :=
  let m := Binary64.magnitudeOfNat digits
  let small := (-exponent).toNat
  if 0 ≤ exponent then
    if digits = 0 then some Binary64.zeroMagnitude
    else if exponent ≤ greatestScale then
      let product := Binary64.times m (powerOfTen exponent.toNat)
      if product = Binary64.infinity then none else some product
    else none
  else if small ≤ greatestScale then some (Binary64.dividedBy m (powerOfTen small))
  else if small ≤ 2 * greatestScale then
    some (Binary64.dividedBy (Binary64.dividedBy m (powerOfTen greatestScale))
      (powerOfTen (small - greatestScale)))
  else some Binary64.zeroMagnitude

/-- The number that a written number means. -/
def numberOf? (n : WrittenNumber) : Option Json :=
  let (leading, left) := leadingDigits 0 n.whole
  let asReal (digits : Nat) (exponent : Int) : Option Json :=
    (scaled? digits exponent).map fun m => .real (.signed n.negative m)
  match n.fraction, n.exponent with
  | none, none =>
    if left ≠ [] then asReal leading left.length
    else if !n.negative then some (.whole leading)
    else if leading = 0 ∨ Nat.pow 2 63 < leading then asReal leading 0
    else some (.whole (-leading))
  | fraction, exponent =>
    let fraction := fraction.getD []
    let (digits, unread) := leadingDigits leading fraction
    asReal digits (exponent.getD 0 + left.length - (fraction.length - unread.length : Nat))

/-! ## §C Values -/

/-- How deep arrays and objects may nest. -/
def depthLimit : Nat := 127

mutual

/-- The value that a written value means, with room for so many levels of nesting. -/
def ofWritten? (levels : Nat) : Written → Option Json
  | .null => some .null
  | .bool b => some (.bool b)
  | .number n => numberOf? n
  | .string pieces => (stringOf? pieces).map .string
  | .array items =>
    match levels with
    | 0 => none
    | levels + 1 => (itemsOfWritten? levels items).map .array
  | .object members =>
    match levels with
    | 0 => none
    | levels + 1 =>
      (membersOfWritten? levels members).map fun pairs => .object (Fields.ofPairs pairs)

/-- The values of the items of an array. -/
def itemsOfWritten? (levels : Nat) : List Written → Option (List Json)
  | [] => some []
  | item :: items => do
    let item ← ofWritten? levels item
    let items ← itemsOfWritten? levels items
    some (item :: items)

/-- The values of the members of an object, in the order of the text. -/
def membersOfWritten? (levels : Nat) :
    List (List Piece × Written) → Option (List (String × Json))
  | [] => some []
  | (key, value) :: members => do
    let key ← stringOf? key
    let value ← ofWritten? levels value
    let members ← membersOfWritten? levels members
    some ((key, value) :: members)

end

/-- The value of a JSON text. -/
def read? (s : List Char) : Option Json :=
  (Written.read? s).bind (ofWritten? depthLimit)

/-- The value of a JSON text, given as a string. -/
def ofText? (s : String) : Option Json := read? s.toList

end DomainFilter.Json
