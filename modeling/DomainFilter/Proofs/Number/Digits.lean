/-
# DomainFilter.Proofs.Number.Digits — digits are read back

A natural number is written as a run of decimal digits, with zeros in front if it is padded. Reading
the run gives the number again, and a reader of digits takes the run from the front of a text as far
as it goes.

* §A The digits of a number: **`read_write`**, and how many there are.
* §B Padded digits: **`read_writePadded`**.
* §C Runs of digits in front of a text: `span_append_of_digits`, `takeRun_append_of_digits` and
  **`number?_writePadded`**.
-/
import Mathlib.Data.List.TakeDrop
import DomainFilter.Number.Digits
import DomainFilter.Text.Blank

namespace DomainFilter

/-- A digit is no white space. -/
theorem Text.isBlank_of_isDigit {c : Char} (h : c.isDigit = true) : isBlank c = false := by
  obtain ⟨hlow, hhigh⟩ := Char.isDigit_iff_toNat.mp h
  have hzero : '0'.toNat = 48 := rfl
  have hnine : '9'.toNat = 57 := rfl
  simp only [isBlank, inRanges, blankRanges, List.any_cons, List.any_nil, Bool.or_false,
    Bool.or_eq_false_iff, Bool.and_eq_false_iff, decide_eq_false_iff_not]
  omega

namespace Digits

/-! ## §A Digits -/

theorem isDigit_of_mem_write {n : Nat} {c : Char} (h : c ∈ write n) : c.isDigit = true :=
  Nat.isDigit_of_mem_toDigits (by decide) (by decide) h

theorem write_ne_nil (n : Nat) : write n ≠ [] := Nat.toDigits_ne_nil

/-- **`read_write`** — the digits of a number say the number. -/
theorem read_write (n : Nat) : read (write n) = n := Nat.ofDigitChars_ten_toDigits

/-- A number is below the power of ten of as many zeros as it has digits. -/
theorem lt_pow_length_write (n : Nat) : n < Nat.pow 10 (write n).length :=
  (Nat.length_toDigits_le_iff (by decide) Nat.length_toDigits_pos).mp (Nat.le_refl _)

theorem read_append (s t : List Char) : read (s ++ t) = readFrom (read s) t :=
  Nat.ofDigitChars_append 0

/-- Digits after a number say less than one more than it would with zeros after it. -/
theorem readFrom_lt {digits : List Char} (h : ∀ c ∈ digits, c.isDigit = true) (n : Nat) :
    readFrom n digits < (n + 1) * Nat.pow 10 digits.length := by
  induction digits generalizing n with
  | nil => exact Nat.lt_of_lt_of_eq (Nat.lt_succ_self n) (Nat.mul_one (n + 1)).symm
  | cons c digits ih =>
    obtain ⟨hc, hdigits⟩ := List.forall_mem_cons.mp h
    have hvalue : value c ≤ 9 := by
      have hnine : '9'.toNat = 57 := rfl
      have hzero : '0'.toNat = 48 := rfl
      have hhigh := (Char.isDigit_iff_toNat.mp hc).2
      rw [value]
      omega
    calc readFrom (10 * n + value c) digits
        < (10 * n + value c + 1) * Nat.pow 10 digits.length := ih hdigits _
      _ ≤ ((n + 1) * 10) * Nat.pow 10 digits.length := Nat.mul_le_mul_right _ (by omega)
      _ = (n + 1) * Nat.pow 10 (digits.length + 1) := by
        rw [Nat.mul_assoc, Nat.mul_comm 10]
        rfl

/-- A run of digits says a number below the power of ten of as many zeros. -/
theorem read_lt_pow_length {digits : List Char} (h : ∀ c ∈ digits, c.isDigit = true) :
    read digits < Nat.pow 10 digits.length := by
  have hbound := readFrom_lt h 0
  rwa [Nat.zero_add, Nat.one_mul] at hbound

/-- Zeros at the end multiply by ten. -/
theorem readFrom_zeros (n count : Nat) :
    readFrom n (List.replicate count '0') = Nat.pow 10 count * n :=
  Nat.ofDigitChars_replicate_zero

/-! ## §B Padded digits -/

theorem isDigit_of_mem_writePadded {width n : Nat} {c : Char}
    (h : c ∈ writePadded width n) : c.isDigit = true := by
  rcases List.mem_append.mp h with hzero | hdigit
  · rw [List.eq_of_mem_replicate hzero]
    rfl
  · exact isDigit_of_mem_write hdigit

theorem writePadded_ne_nil (width n : Nat) : writePadded width n ≠ [] := by
  intro hnil
  exact write_ne_nil n (List.append_eq_nil_iff.mp hnil).2

theorem writePadded_one {n : Nat} (h : n < 10) : writePadded 1 n = [Nat.digitChar n] := by
  rw [writePadded, write, Nat.toDigits_of_lt_base h]
  rfl

/-- The last digit stands at the end, and the others are padded to one place less. -/
theorem writePadded_succ (width n : Nat) :
    writePadded (width + 2) n = writePadded (width + 1) (n / 10) ++ [Nat.digitChar (n % 10)] := by
  by_cases hsmall : n < 10
  · have hzero : n / 10 = 0 := Nat.div_eq_of_lt hsmall
    have hdigit : n % 10 = n := Nat.mod_eq_of_lt hsmall
    rw [hzero, hdigit, writePadded, writePadded, write, write, Nat.toDigits_of_lt_base hsmall,
      Nat.toDigits_zero]
    simp [List.replicate_succ']
  · have hlast : write n = write (n / 10) ++ [Nat.digitChar (n % 10)] := by
      rw [write, write, Nat.toDigits_of_base_le (by decide) (Nat.not_lt.mp hsmall)]
    rw [writePadded, writePadded, hlast, List.length_append, List.length_singleton,
      List.append_assoc]
    congr 2
    omega

theorem length_writePadded {width n : Nat} (h : n < Nat.pow 10 (width + 1)) :
    (writePadded (width + 1) n).length = width + 1 := by
  have hshort : (write n).length ≤ width + 1 :=
    (Nat.length_toDigits_le_iff (by decide) (Nat.succ_pos width)).mpr h
  rw [writePadded, List.length_append, List.length_replicate, Nat.sub_add_cancel hshort]

theorem le_length_writePadded (width n : Nat) : width ≤ (writePadded width n).length := by
  rw [writePadded, List.length_append, List.length_replicate]
  omega

/-- **`read_writePadded`** — zeros in front change nothing. -/
theorem read_writePadded (width n : Nat) : read (writePadded width n) = n := by
  have hzeros := readFrom_zeros 0 (width - (write n).length)
  rw [writePadded, read_append, read, hzeros, Nat.mul_zero]
  exact read_write n

/-! ## §C Runs in front of a text -/

section

variable {run rest : List Char}

/-- Where no digit stands first none is passed over. -/
theorem dropWhile_eq_self (hrest : rest.takeWhile Char.isDigit = []) :
    rest.dropWhile Char.isDigit = rest := by
  have happend := List.takeWhile_append_dropWhile (p := Char.isDigit) (l := rest)
  rwa [hrest, List.nil_append] at happend

/-- A run of digits ends where no digit follows. -/
theorem span_append_of_digits (hrun : ∀ c ∈ run, c.isDigit = true)
    (hrest : rest.takeWhile Char.isDigit = []) :
    (run ++ rest).span Char.isDigit = (run, rest) := by
  rw [List.span_eq_takeWhile_dropWhile, List.takeWhile_append_of_pos hrun,
    List.dropWhile_append_of_pos hrun, hrest, dropWhile_eq_self hrest, List.append_nil]

/-- Digits alone are all of the run. -/
theorem span_of_digits (hrun : ∀ c ∈ run, c.isDigit = true) :
    run.span Char.isDigit = (run, []) := by
  have hend : ([] : List Char).takeWhile Char.isDigit = [] := rfl
  have happend := span_append_of_digits hrun hend
  rwa [List.append_nil] at happend

/-- A bounded run is all taken if it is not too long, and ends where no digit follows or at the
bound. -/
theorem takeRun_append_of_digits {most : Nat} (hrun : ∀ c ∈ run, c.isDigit = true)
    (hlength : run.length ≤ most)
    (hend : run.length = most ∨ rest.takeWhile Char.isDigit = []) :
    takeRun most (run ++ rest) = (run, rest) := by
  have hnone : (rest.take (most - run.length)).takeWhile Char.isDigit = [] := by
    rcases hend with hfull | hstop
    · rw [hfull, Nat.sub_self]
      rfl
    · cases rest with
      | nil => simp
      | cons c rest =>
        cases most - run.length with
        | zero => rfl
        | succ left =>
          have hc : ¬ c.isDigit = true := by
            intro hdigit
            rw [List.takeWhile_cons_of_pos hdigit] at hstop
            cases hstop
          rw [List.take_succ_cons, List.takeWhile_cons_of_neg hc]
  have hall : ((run ++ rest).take most).takeWhile Char.isDigit = run := by
    rw [List.take_append, List.take_of_length_le hlength, List.takeWhile_append_of_pos hrun, hnone,
      List.append_nil]
  simp only [takeRun, hall, List.drop_left]

end

/-- **`number?_writePadded`** — a number is read from a field of its width, whatever follows. -/
theorem number?_writePadded {width n : Nat} (h : n < Nat.pow 10 (width + 1)) (rest : List Char) :
    number? (width + 1) (width + 1) (writePadded (width + 1) n ++ rest) = some (n, rest) := by
  have hlength := length_writePadded h
  have hrun : takeRun (width + 1) (writePadded (width + 1) n ++ rest)
      = (writePadded (width + 1) n, rest) :=
    takeRun_append_of_digits (fun _ hc => isDigit_of_mem_writePadded hc) (Nat.le_of_eq hlength)
      (.inl hlength)
  simp only [number?, hrun, hlength, Nat.lt_irrefl, if_false, read_writePadded]

end Digits

end DomainFilter
