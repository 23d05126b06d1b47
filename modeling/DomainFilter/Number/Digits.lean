/-
# DomainFilter.Number.Digits — decimal digits

Reading a run of decimal digits as a natural number, and writing a natural number as one. Only the
ten ASCII digits count.
-/

namespace DomainFilter.Digits

/-- The value of a decimal digit. -/
def value (c : Char) : Nat := c.toNat - '0'.toNat

/-- The natural number that a run of digits says, after the number said so far. -/
def readFrom (n : Nat) (digits : List Char) : Nat :=
  digits.foldl (fun n c => 10 * n + value c) n

/-- The natural number that a run of digits says. -/
def read (digits : List Char) : Nat := readFrom 0 digits

/-- The digits of a natural number. -/
def write (n : Nat) : List Char := Nat.toDigits 10 n

/-- How many digits a natural number has: 1233 / 4096 is a little less than the logarithm of 2 to
base 10, so for numbers of less than ten thousand bits the count from the bits is exact or one short. -/
def count (n : Nat) : Nat :=
  let short := n.log2 * 1233 / 4096 + 1
  if Nat.pow 10 short ≤ n then short + 1 else short

/-- The digits of a natural number, with zeros in front up to a width. -/
def writePadded (width n : Nat) : List Char :=
  List.replicate (width - (write n).length) '0' ++ write n

/-- The digits of an integer, after a minus sign if it is negative. -/
def writeInt (n : Int) : List Char :=
  if n < 0 then '-' :: write n.natAbs else write n.natAbs

/-- The run of at most `most` digits at the start of a text, and what follows it. -/
def takeRun (most : Nat) (s : List Char) : List Char × List Char :=
  let run := (s.take most).takeWhile Char.isDigit
  (run, s.drop run.length)

/-- The number at the start of a text, of at least `least` and at most `most` digits. -/
def number? (least most : Nat) (s : List Char) : Option (Nat × List Char) :=
  let (run, rest) := takeRun most s
  if run.length < least then none else some (read run, rest)

/-- No number is read where no digit stands. -/
theorem number?_of_not_digit {least most : Nat} {c : Char} (hleast : 0 < least)
    (hc : c.isDigit = false) (s : List Char) : number? least most (c :: s) = none := by
  have hrun : (List.take most (c :: s)).takeWhile Char.isDigit = [] := by
    cases most with
    | zero => rfl
    | succ most => rw [List.take_succ_cons, List.takeWhile_cons_of_neg (by simp [hc])]
  simp only [number?, takeRun, hrun]
  exact if_pos hleast

end DomainFilter.Digits
