/-
# DomainFilter.Proofs.Json.Scalars — strings and numbers are read as they are written

Each reader of a part of a text is given the text of that part with anything behind it, as long as
it does not go on with the part.

* §A **`readPieces_writeString`** — a string is read up to its own closing quotation mark, and
  **`stringOf?_pieceOf`** makes it again.
* §B **`readScalar_text`** — a number that keeps to the grammar is read from its text.
* §C **`write_eq_text`** — a real number is printed as the text of a decimal, in one of three forms,
  which keeps to the grammar.
-/
import DomainFilter.Json.Reader
import DomainFilter.Json.Writer
import DomainFilter.Proofs.Number.ReadBack

namespace DomainFilter

/-- The digits of a number start with a zero only if there is no other digit. -/
theorem Digits.eq_nil_of_write_eq_cons_zero {n : Nat} {rest : List Char}
    (h : write n = '0' :: rest) : rest = [] := by
  by_contra hne
  have hlength : 0 < rest.length := List.length_pos_iff.mpr hne
  have hdigits : ∀ c ∈ rest, c.isDigit = true := by
    intro c hc
    apply isDigit_of_mem_write (n := n)
    rw [h]
    exact List.mem_cons_of_mem _ hc
  have hn : n = read rest := by
    have hread : read (write n) = read ('0' :: rest) := congrArg read h
    rwa [read_write] at hread
  -- so the number is small enough for one digit less
  have hsmall : n < 10 ^ rest.length := hn ▸ read_lt_pow_length hdigits
  have hshort : (write n).length ≤ rest.length :=
    (Nat.length_toDigits_le_iff (by decide) hlength).mpr hsmall
  rw [h, List.length_cons] at hshort
  omega

namespace Json

/-! ## §A Strings -/

/-- The piece that a character is written as. -/
def pieceOf (c : Char) : Piece :=
  if escapeLetter? c = none ∧ c.toNat < 0x20 then .unit c.toNat else .char c

namespace Written

theorem hexValue?_digitChar : ∀ d < 16, hexValue? (Nat.digitChar d) = some d := by
  decide

/-- Two digits after two zeros say a control character. -/
theorem hex?_of_lt {n : Nat} (h : n < 0x20) :
    hex? ['0', '0', Nat.digitChar (n / 16), Nat.digitChar (n % 16)] = some n := by
  have hzero : hexValue? '0' = some 0 := rfl
  have hhigh := hexValue?_digitChar (n / 16) (by omega)
  have hlow := hexValue?_digitChar (n % 16) (by omega)
  simp only [hex?, List.foldlM_cons, List.foldlM_nil, hzero, hhigh, hlow, Option.map_some,
    Option.bind_eq_bind, Option.bind_some, Option.pure_def, Option.some_inj]
  omega

theorem unescape?_of_escapeLetter? {c letter : Char} (h : escapeLetter? c = some letter) :
    unescape? letter = some c ∧ letter ≠ 'u' := by
  unfold escapeLetter? at h
  split at h
  all_goals first
    | cases h; exact ⟨rfl, by decide⟩
    | cases h

theorem escapeLetter?_of_special {c : Char} (h : c = '"' ∨ c = '\\') :
    escapeLetter? c ≠ none := by
  rcases h with rfl | rfl <;> decide

/-- A character is read as its piece, whatever follows. -/
theorem readPieces_writeChar (c : Char) {s rest : List Char} {pieces : List Piece}
    (h : readPieces s = some (pieces, rest)) :
    readPieces (writeChar c ++ s) = some (pieceOf c :: pieces, rest) := by
  unfold writeChar pieceOf
  cases hletter : escapeLetter? c with
  | some letter =>
    obtain ⟨hunescape, hu⟩ := unescape?_of_escapeLetter? hletter
    have hplain : ∀ a b c d t, letter = 'u' → s = a :: b :: c :: d :: t → False :=
      fun _ _ _ _ _ heq _ => hu heq
    simp [readPieces.eq_4 letter s hplain, hunescape, h]
  | none =>
    by_cases hcontrol : c.toNat < 0x20
    · simp [hcontrol, readPieces.eq_3, hex?_of_lt hcontrol, h]
    · have hquote : c ≠ '"' := fun heq => escapeLetter?_of_special (.inl heq) hletter
      have hslash : c ≠ '\\' := fun heq => escapeLetter?_of_special (.inr heq) hletter
      have hread := readPieces.eq_5 c s hquote (fun _ _ _ _ _ heq _ => hslash heq)
        (fun _ _ heq _ => hslash heq)
      simp [hcontrol, hread, h]

/-- **`readPieces_writeString`** — a string is read up to its own closing quotation mark. -/
theorem readPieces_writeString (s : String) (rest : List Char) :
    readPieces (s.toList.flatMap writeChar ++ '"' :: rest)
      = some (s.toList.map pieceOf, rest) := by
  induction s.toList with
  | nil => exact readPieces.eq_2 rest
  | cons c cs ih =>
    rw [List.flatMap_cons, List.append_assoc]
    exact readPieces_writeChar c ih

end Written

theorem characters?_cons_pieceOf (c : Char) (pieces : List Piece) :
    characters? (pieceOf c :: pieces) = (characters? pieces).map (c :: ·) := by
  unfold pieceOf
  split
  case isTrue hcontrol =>
    have hhigh : isHighSurrogate c.toNat = false := by
      simp only [isHighSurrogate, Bool.and_eq_false_iff, decide_eq_false_iff_not]
      omega
    have hlow : isLowSurrogate c.toNat = false := by
      simp only [isLowSurrogate, Bool.and_eq_false_iff, decide_eq_false_iff_not]
      omega
    rw [characters?.eq_def]
    simp only [hhigh, hlow, Bool.false_eq_true, if_false, Char.ofNat_toNat]
  case isFalse => rw [characters?]

/-- **`stringOf?_pieceOf`** — the pieces of a string make it again. -/
theorem stringOf?_pieceOf (s : String) : stringOf? (s.toList.map pieceOf) = some s := by
  have hcharacters : ∀ cs : List Char, characters? (cs.map pieceOf) = some cs := by
    intro cs
    induction cs with
    | nil => rfl
    | cons c cs ih => rw [List.map_cons, characters?_cons_pieceOf, ih, Option.map_some]
  rw [stringOf?, hcharacters, Option.map_some, String.ofList_toList]

/-! ## §B Numbers -/

namespace WrittenNumber

/-- The text of an exponent with its sign, if there is one. -/
def exponentText : Option Int → List Char
  | none => []
  | some e => 'e' :: (if e < 0 then '-' else '+') :: Digits.write e.natAbs

/-- The text of the digits after the point with the point, if there is one. -/
def fractionText : Option (List Char) → List Char
  | none => []
  | some digits => '.' :: digits

/-- The text of a number without its sign. -/
def magnitudeText (n : WrittenNumber) : List Char :=
  n.whole ++ (fractionText n.fraction ++ exponentText n.exponent)

/-- The text of a number. -/
def text (n : WrittenNumber) : List Char :=
  if n.negative then '-' :: n.magnitudeText else n.magnitudeText

/-- The number keeps to the grammar: digits everywhere, and before the point no zero in front of
others. -/
structure Proper (n : WrittenNumber) : Prop where
  whole_ne_nil : n.whole ≠ []
  whole_digits : ∀ c ∈ n.whole, c.isDigit = true
  no_idle_zero : ∀ rest, n.whole = '0' :: rest → rest = []
  fraction_ne_nil : n.fraction ≠ some []
  fraction_digits : ∀ digits ∈ n.fraction, ∀ c ∈ digits, c.isDigit = true

end WrittenNumber

namespace Written

open WrittenNumber (exponentText fractionText)

/-- No digit stands here. -/
def NoDigit (s : List Char) : Prop := s.takeWhile Char.isDigit = []

/-- A number ends here: at the end of the text, before a comma, or before a bracket that closes. -/
inductive Closed : List Char → Prop
  | nil : Closed []
  | comma (s : List Char) : Closed (',' :: s)
  | bracket (s : List Char) : Closed (']' :: s)
  | brace (s : List Char) : Closed ('\x7d' :: s)

theorem noDigit_cons {c : Char} (h : c.isDigit = false) (s : List Char) : NoDigit (c :: s) :=
  List.takeWhile_cons_of_neg (Bool.eq_false_iff.mp h)

section

variable {whole rest : List Char}

theorem Closed.noDigit (h : Closed rest) : NoDigit rest := by
  cases h with
  | nil => rfl
  | _ => exact noDigit_cons rfl _

theorem noDigit_exponentText (exponent : Option Int) (hrest : Closed rest) :
    NoDigit (exponentText exponent ++ rest) := by
  cases exponent with
  | none => exact hrest.noDigit
  | some e => exact noDigit_cons rfl _

theorem noDigit_fractionText (fraction : Option (List Char)) (hrest : NoDigit rest) :
    NoDigit (fractionText fraction ++ rest) := by
  cases fraction with
  | none => exact hrest
  | some digits => exact noDigit_cons rfl _

theorem readWhole_append (hne : whole ≠ []) (hdigits : ∀ c ∈ whole, c.isDigit = true)
    (hzero : ∀ more, whole = '0' :: more → more = []) (hrest : NoDigit rest) :
    readWhole (whole ++ rest) = some (whole, rest) := by
  unfold readWhole
  rw [Digits.span_append_of_digits hdigits hrest]
  split
  case h_1 heq => exact absurd (Prod.mk.inj heq).1 hne
  case h_2 heq =>
    have hnone := hzero _ (Prod.mk.inj heq).1
    cases hnone
  case h_3 heq => rw [← (Prod.mk.inj heq).1, ← (Prod.mk.inj heq).2]

theorem readSign_exponent (e : Int) (s : List Char) :
    readSign ((if e < 0 then '-' else '+') :: s) = (decide (e < 0), s) := by
  by_cases hnegative : e < 0 <;> simp [hnegative, readSign]

theorem readExponent_text (exponent : Option Int) (hrest : Closed rest) :
    readExponent (exponentText exponent ++ rest) = some (exponent, rest) := by
  cases exponent with
  | none =>
    show readExponent rest = some (none, rest)
    cases hrest <;> rfl
  | some e =>
    have hspan := Digits.span_append_of_digits
      (fun c hc => Digits.isDigit_of_mem_write (n := e.natAbs) hc) hrest.noDigit
    simp only [exponentText, List.cons_append, readExponent, true_or, if_true, readSign_exponent,
      hspan]
    split
    case h_1 heq => exact absurd (Prod.mk.inj heq).1 (Digits.write_ne_nil _)
    case h_2 heq =>
      have hvalue : (if decide (e < 0) = true then -(e.natAbs : Int) else e.natAbs) = e := by
        simp only [decide_eq_true_eq]
        split <;> omega
      rw [← (Prod.mk.inj heq).1, ← (Prod.mk.inj heq).2, Digits.read_write, hvalue]

theorem readFraction_point {digits : List Char} (hne : digits ≠ [])
    (hdigits : ∀ c ∈ digits, c.isDigit = true) (hrest : NoDigit rest) :
    readFraction (fractionText (some digits) ++ rest) = some (some digits, rest) := by
  rw [fractionText, List.cons_append, readFraction, Digits.span_append_of_digits hdigits hrest]
  split
  case h_1 heq => exact absurd (Prod.mk.inj heq).1 hne
  case h_2 heq => rw [← (Prod.mk.inj heq).1, ← (Prod.mk.inj heq).2]

/-- Neither an exponent nor what closes a number starts with a point. -/
theorem readFraction_none (exponent : Option Int) (hrest : Closed rest) :
    readFraction (exponentText exponent ++ rest) = some (none, exponentText exponent ++ rest) := by
  cases exponent with
  | none => cases hrest <;> rfl
  | some e => rfl

/-- **`readMagnitude_text`** — a number without its sign is read from its text. -/
theorem readMagnitude_text {n : WrittenNumber} (h : n.Proper) (hrest : Closed rest) :
    readMagnitude n.negative (n.magnitudeText ++ rest) = some (.number n, rest) := by
  have hdigit : NoDigit (exponentText n.exponent ++ rest) := noDigit_exponentText _ hrest
  have hfraction : readFraction (fractionText n.fraction ++ (exponentText n.exponent ++ rest))
      = some (n.fraction, exponentText n.exponent ++ rest) := by
    cases hdigits : n.fraction with
    | none => exact readFraction_none _ hrest
    | some digits =>
      have hne : digits ≠ [] := fun hnil => h.fraction_ne_nil (hnil ▸ hdigits)
      exact readFraction_point hne (h.fraction_digits digits hdigits) hdigit
  have hwhole := readWhole_append h.whole_ne_nil h.whole_digits h.no_idle_zero
    (noDigit_fractionText n.fraction hdigit)
  simp only [readMagnitude, WrittenNumber.magnitudeText, List.append_assoc, hwhole, hfraction,
    readExponent_text _ hrest, Option.bind_eq_bind, Option.bind_some]

end

/-- A number is read from its text. -/
theorem readScalar_text {n : WrittenNumber} (h : n.Proper) {rest : List Char}
    (hrest : Closed rest) : readScalar (n.text ++ rest) = some (.number n, rest) := by
  have hread := readMagnitude_text h hrest
  unfold WrittenNumber.text
  split
  case isTrue hnegative =>
    rw [List.cons_append, readScalar, ← hnegative, hread]
  case isFalse hpositive =>
    rw [Bool.not_eq_true] at hpositive
    rw [hpositive] at hread
    obtain ⟨c, digits, hwhole⟩ := List.exists_cons_of_ne_nil h.whole_ne_nil
    have hdigit : c.isDigit = true := h.whole_digits c (hwhole ▸ List.mem_cons_self)
    rw [WrittenNumber.magnitudeText, hwhole] at hread ⊢
    rw [← hread]
    -- no other scalar starts with a digit
    apply readScalar.eq_6 <;> intro s heq <;> cases (List.cons.inj heq).1 <;> cases hdigit

end Written

/-! ## §C Real numbers -/

/-- Digits with zeros after them, and a zero after the point. -/
def wholeDecimal (negative : Bool) (digits zeros : Nat) : WrittenNumber :=
  ⟨negative, Digits.write digits ++ List.replicate zeros '0', some ['0'], none⟩

/-- Digits with so many of them after the point, and at least one before it. -/
def pointDecimal (negative : Bool) (digits places : Nat) : WrittenNumber :=
  let padded := Digits.writePadded (places + 1) digits
  ⟨negative, padded.take (padded.length - places), some (padded.drop (padded.length - places)),
    none⟩

/-- Digits with the first of them before the point, and an exponent. -/
def scientificDecimal (negative : Bool) (d : Decimal) : WrittenNumber :=
  let digits := Digits.write d.digits
  ⟨negative, digits.take 1, if digits.length ≤ 1 then none else some (digits.drop 1),
    some (digits.length - 1 + d.exponent)⟩

/-- A decimal as it is written. -/
def writtenDecimal (negative : Bool) (d : Decimal) : WrittenNumber :=
  if numberLayout.positional ((Digits.write d.digits).length - 1 + d.exponent) then
    if 0 ≤ d.exponent then wholeDecimal negative d.digits d.exponent.toNat
    else pointDecimal negative d.digits (-d.exponent).toNat
  else scientificDecimal negative d

theorem negative_writtenDecimal (negative : Bool) (d : Decimal) :
    (writtenDecimal negative d).negative = negative := by
  unfold writtenDecimal
  split
  · split <;> rfl
  · rfl

theorem setScientific_eq_text (negative : Bool) (d : Decimal) :
    NumberLayout.setScientific d = (scientificDecimal negative d).magnitudeText := by
  simp only [NumberLayout.setScientific, scientificDecimal, WrittenNumber.magnitudeText,
    WrittenNumber.exponentText, List.append_assoc]
  split <;> rfl

theorem set_eq_text (negative : Bool) (m : Magnitude) :
    numberLayout.set m = (writtenDecimal negative (Decimal.shortest .even m)).magnitudeText := by
  have htie : numberLayout.tie = .even := rfl
  have hpoint : numberLayout.wholePoint = true := rfl
  simp only [NumberLayout.set, writtenDecimal, htie]
  split
  · simp only [NumberLayout.setPositional, hpoint, if_true]
    split
    · simp [wholeDecimal, WrittenNumber.magnitudeText, WrittenNumber.fractionText,
        WrittenNumber.exponentText]
    · simp [pointDecimal, WrittenNumber.magnitudeText, WrittenNumber.fractionText,
        WrittenNumber.exponentText]
  · exact setScientific_eq_text negative _

/-- **`write_eq_text`** — what the writer prints of a real number is the text of its decimal. -/
theorem write_eq_text (negative : Bool) (m : Magnitude) :
    numberLayout.write negative m
      = (writtenDecimal negative (Decimal.shortest .even m)).text := by
  rw [NumberLayout.write, WrittenNumber.text, negative_writtenDecimal, ← set_eq_text]

/-- Only zero has no digits, and it is written without exponent. -/
theorem exponent_shortest_of_digits_eq_zero {tie : DecimalTie} {m : Magnitude}
    (h : (Decimal.shortest tie m).digits = 0) : (Decimal.shortest tie m).exponent = 0 := by
  have hmagnitude := Decimal.magnitude_shortest tie m
  have hzero : m = Binary64.zeroMagnitude := by
    rw [← hmagnitude, Decimal.magnitude_eq_nearest, h, Nat.zero_mul, Nat.zero_mul]
    exact Binary64.nearest_eq_zero (Binary64.pow_ten_pos _)
  rw [Decimal.shortest, if_pos hzero]

theorem proper_wholeDecimal {negative : Bool} {digits zeros : Nat} (h : digits = 0 → zeros = 0) :
    (wholeDecimal negative digits zeros).Proper where
  whole_ne_nil := by simp [wholeDecimal, Digits.write_ne_nil]
  whole_digits := by
    intro c hc
    rcases List.mem_append.mp hc with hdigit | hzero
    · exact Digits.isDigit_of_mem_write hdigit
    · rw [List.eq_of_mem_replicate hzero]
      rfl
  no_idle_zero := by
    intro rest hrest
    obtain ⟨c, ds, hwrite⟩ := List.exists_cons_of_ne_nil (Digits.write_ne_nil digits)
    simp only [wholeDecimal, hwrite, List.cons_append, List.cons.injEq] at hrest
    obtain ⟨rfl, hrest⟩ := hrest
    have hnone := Digits.eq_nil_of_write_eq_cons_zero hwrite
    subst hnone
    have hdigits : digits = 0 := by
      rw [← Digits.read_write digits, hwrite]
      rfl
    rw [← hrest, h hdigits]
    rfl
  fraction_ne_nil := by simp [wholeDecimal]
  fraction_digits := by
    intro digits hdigits c hc
    rw [← Option.some.inj hdigits] at hc
    rw [List.mem_singleton.mp hc]
    rfl

theorem proper_pointDecimal {negative : Bool} {digits places : Nat} (h : 0 < places) :
    (pointDecimal negative digits places).Proper := by
  have hlength := Digits.le_length_writePadded (places + 1) digits
  constructor
  · simp only [pointDecimal, ne_eq, List.take_eq_nil_iff, Digits.writePadded_ne_nil, or_false]
    omega
  · intro c hc
    exact Digits.isDigit_of_mem_writePadded (List.mem_of_mem_take hc)
  · intro rest hrest
    by_cases hshort : (Digits.write digits).length ≤ places + 1
    · -- padded to just one digit before the point
      have hpadded : (Digits.writePadded (places + 1) digits).length = places + 1 := by
        simp only [Digits.writePadded, List.length_append, List.length_replicate]
        omega
      have htaken := congrArg List.length hrest
      simp only [pointDecimal, List.length_take, List.length_cons, hpadded] at htaken
      exact List.eq_nil_of_length_eq_zero (by omega)
    · -- not padded, so what stands in front is no zero
      have hpadded : Digits.writePadded (places + 1) digits = Digits.write digits := by
        rw [Digits.writePadded, Nat.sub_eq_zero_of_le (by omega), List.replicate_zero,
          List.nil_append]
      obtain ⟨c, ds, hwrite⟩ := List.exists_cons_of_ne_nil (Digits.write_ne_nil digits)
      obtain ⟨kept, hkept⟩ : ∃ kept, (Digits.write digits).length - places = kept + 1 :=
        ⟨(Digits.write digits).length - places - 1, by omega⟩
      simp only [pointDecimal, hpadded, hkept] at hrest
      rw [hwrite, List.take_succ_cons] at hrest
      obtain rfl := (List.cons.inj hrest).1
      have hnone := Digits.eq_nil_of_write_eq_cons_zero hwrite
      rw [hwrite, hnone] at hshort
      exact absurd (Nat.succ_le_succ (Nat.zero_le places)) hshort
  · simp only [pointDecimal, ne_eq, Option.some_inj, List.drop_eq_nil_iff]
    omega
  · intro ds hds c hc
    rw [← Option.some.inj hds] at hc
    exact Digits.isDigit_of_mem_writePadded (List.mem_of_mem_drop hc)

theorem proper_scientificDecimal (negative : Bool) (d : Decimal) :
    (scientificDecimal negative d).Proper := by
  constructor
  · simp [scientificDecimal, Digits.write_ne_nil]
  · intro c hc
    exact Digits.isDigit_of_mem_write (List.mem_of_mem_take hc)
  · intro rest hrest
    have htaken := congrArg List.length hrest
    simp only [scientificDecimal, List.length_take, List.length_cons] at htaken
    exact List.eq_nil_of_length_eq_zero (by omega)
  · simp only [scientificDecimal]
    split
    · simp
    · simp only [ne_eq, Option.some_inj, List.drop_eq_nil_iff]
      assumption
  · intro ds hds c hc
    simp only [scientificDecimal] at hds
    split at hds
    · cases hds
    · rw [← Option.some.inj hds] at hc
      exact Digits.isDigit_of_mem_write (List.mem_of_mem_drop hc)

theorem proper_writtenDecimal {negative : Bool} {d : Decimal}
    (h : d.digits = 0 → d.exponent = 0) : (writtenDecimal negative d).Proper := by
  unfold writtenDecimal
  split
  · split
    · exact proper_wholeDecimal fun hzero => by rw [h hzero]; rfl
    · exact proper_pointDecimal (by omega)
  · exact proper_scientificDecimal negative d

end Json

end DomainFilter
