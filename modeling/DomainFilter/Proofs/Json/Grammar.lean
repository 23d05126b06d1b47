/-
# DomainFilter.Proofs.Json.Grammar — the text of every JSON value is in the grammar

* §A `written`, what the grammar sees of a value: its strings in pieces and its numbers in digits.
  A scalar is told from an array or an object by its first character.
* §B **`writtenRead?_write`** — the text of a value is read as the value is written. The induction
  is on the value, with the fuel and the text that follows as variables; twice the length of what
  was written is fuel enough.

BOUNDARY: what the written value means is another matter, see `DomainFilter.Proofs.Json.ReadBack`.
-/
import DomainFilter.Proofs.Json.Scalars

namespace DomainFilter.Json

/-! ## §A Values as they are written -/

/-- A whole number as it is written. -/
def writtenWhole (n : Int) : WrittenNumber := ⟨n < 0, Digits.write n.natAbs, none, none⟩

/-- A real number as it is written, which is null if it is not finite. -/
def writtenReal : Binary64 → Written
  | .nan => .null
  | .signed negative m =>
    if m = Binary64.infinity then .null
    else .number (writtenDecimal negative (Decimal.shortest .even m))

mutual

/-- A JSON value as it is written. -/
def written : Json → Written
  | .null => .null
  | .bool b => .bool b
  | .whole n => .number (writtenWhole n)
  | .real x => writtenReal x
  | .string s => .string (s.toList.map pieceOf)
  | .array items => .array (writtenItems items)
  | .object members => .object (writtenMembers members)

/-- The items of an array as they are written. -/
def writtenItems : List Json → List Written
  | [] => []
  | item :: items => written item :: writtenItems items

/-- The members of an object as they are written. -/
def writtenMembers : List (String × Json) → List (List Piece × Written)
  | [] => []
  | (key, value) :: members => (key.toList.map pieceOf, written value) :: writtenMembers members

end

theorem writeInt_eq_text (n : Int) : Digits.writeInt n = (writtenWhole n).text := by
  simp only [Digits.writeInt, WrittenNumber.text, WrittenNumber.magnitudeText,
    WrittenNumber.fractionText, WrittenNumber.exponentText, writtenWhole, List.append_nil,
    decide_eq_true_eq]

theorem proper_writtenWhole (n : Int) : (writtenWhole n).Proper where
  whole_ne_nil := Digits.write_ne_nil _
  whole_digits _ hc := Digits.isDigit_of_mem_write hc
  no_idle_zero _ hrest := Digits.eq_nil_of_write_eq_cons_zero hrest
  fraction_ne_nil := by simp [writtenWhole]
  fraction_digits := by simp [writtenWhole]

/-- A scalar may start here: no blank, and no bracket of an array or object. -/
def OpensScalar (c : Char) : Prop :=
  Written.isBlank c = false ∧ c ≠ '[' ∧ c ≠ '\x7b' ∧ c ≠ ']'

instance : DecidablePred OpensScalar := fun c =>
  inferInstanceAs (Decidable (Written.isBlank c = false ∧ c ≠ '[' ∧ c ≠ '\x7b' ∧ c ≠ ']'))

theorem opensScalar_of_isDigit {c : Char} (h : c.isDigit = true) : OpensScalar c := by
  have hne : ∀ {d : Char}, d.isDigit = false → c ≠ d := by
    rintro d hd rfl
    rw [h] at hd
    cases hd
  refine ⟨?_, hne rfl, hne rfl, hne rfl⟩
  simp [Written.isBlank, hne]

theorem WrittenNumber.Proper.exists_head {n : WrittenNumber} (h : n.Proper) :
    ∃ c s, n.text = c :: s ∧ OpensScalar c := by
  obtain ⟨c, digits, hwhole⟩ := List.exists_cons_of_ne_nil h.whole_ne_nil
  unfold text
  split
  · exact ⟨'-', _, rfl, by decide⟩
  · refine ⟨c, _, by rw [magnitudeText, hwhole, List.cons_append], ?_⟩
    exact opensScalar_of_isDigit (h.whole_digits c (hwhole ▸ List.mem_cons_self))

/-- The text is that of a scalar: it starts as one, and it is read as the value up to where it
closes. -/
structure ScalarText (s : List Char) (value : Written) : Prop where
  exists_head : ∃ c rest, s = c :: rest ∧ OpensScalar c
  readScalar_append : ∀ rest, Written.Closed rest →
    Written.readScalar (s ++ rest) = some (value, rest)

theorem scalarText_text {n : WrittenNumber} (h : n.Proper) : ScalarText n.text (.number n) where
  exists_head := h.exists_head
  readScalar_append _ hrest := Written.readScalar_text h hrest

theorem scalarText_null : ScalarText "null".toList .null where
  exists_head := ⟨'n', _, rfl, by decide⟩
  readScalar_append _ _ := rfl

theorem scalarText_bool (b : Bool) :
    ScalarText (if b then "true".toList else "false".toList) (.bool b) := by
  cases b with
  | true =>
    exact ⟨⟨'t', _, rfl, by decide⟩, fun _ _ => rfl⟩
  | false =>
    exact ⟨⟨'f', _, rfl, by decide⟩, fun _ _ => rfl⟩

theorem scalarText_string (s : String) :
    ScalarText (writeString s) (.string (s.toList.map pieceOf)) where
  exists_head := ⟨'"', _, rfl, by decide⟩
  readScalar_append rest _ := by
    have hpieces := Written.readPieces_writeString s rest
    simp only [writeString, List.cons_append, List.append_assoc, List.nil_append,
      Written.readScalar, hpieces, Option.bind_eq_bind, Option.bind_some]

theorem scalarText_real (x : Binary64) : ScalarText (writeReal x) (writtenReal x) := by
  cases x with
  | nan => exact scalarText_null
  | signed negative m =>
    rw [writeReal, writtenReal]
    split
    · exact scalarText_null
    · rw [write_eq_text]
      exact scalarText_text (proper_writtenDecimal exponent_shortest_of_digits_eq_zero)

/-- The value is neither an array nor an object. -/
inductive IsScalar : Json → Prop
  | null : IsScalar .null
  | bool (b : Bool) : IsScalar (.bool b)
  | whole (n : Int) : IsScalar (.whole n)
  | real (x : Binary64) : IsScalar (.real x)
  | string (s : String) : IsScalar (.string s)

theorem scalarText_write {json : Json} (h : IsScalar json) :
    ScalarText (write json) (written json) := by
  cases h with
  | null => exact scalarText_null
  | bool b => exact scalarText_bool b
  | whole n =>
    rw [write, written, writeInt_eq_text]
    exact scalarText_text (proper_writtenWhole n)
  | real x => exact scalarText_real x
  | string s => exact scalarText_string s

namespace Written

theorem skipBlanks_cons {c : Char} (h : isBlank c = false) (s : List Char) :
    skipBlanks (c :: s) = c :: s :=
  List.dropWhile_cons_of_neg (Bool.eq_false_iff.mp h)

/-- A scalar is read where a value is read. -/
theorem readValue_scalarText {s : List Char} {value : Written} (h : ScalarText s value)
    (fuel : Nat) {rest : List Char} (hrest : Closed rest) :
    readValue (fuel + 1) (s ++ rest) = some (value, rest) := by
  have hread := h.readScalar_append rest hrest
  obtain ⟨c, more, rfl, hblank, hbracket, hbrace, -⟩ := h.exists_head
  rw [List.cons_append] at hread ⊢
  rw [readValue, skipBlanks_cons hblank]
  split
  case h_1 heq => exact absurd (List.cons.inj heq).1 hbracket
  case h_2 heq => exact absurd (List.cons.inj heq).1 hbrace
  case h_3 => exact hread

end Written

/-- The text of a value starts with no blank and does not close an array. -/
theorem exists_head_write (json : Json) :
    ∃ c s, write json = c :: s ∧ Written.isBlank c = false ∧ c ≠ ']' := by
  have hscalar : ∀ {scalar : Json}, IsScalar scalar →
      ∃ c s, write scalar = c :: s ∧ Written.isBlank c = false ∧ c ≠ ']' := by
    intro scalar h
    obtain ⟨c, s, hs, hblank, -, -, hclosing⟩ := (scalarText_write h).exists_head
    exact ⟨c, s, hs, hblank, hclosing⟩
  cases json with
  | array items => exact ⟨'[', _, by rw [write, List.cons_append], by decide, by decide⟩
  | object members => exact ⟨'\x7b', _, by rw [write, List.cons_append], by decide, by decide⟩
  | _ => exact hscalar (by constructor)

theorem exists_head_writeItems (item : Json) (items : List Json) :
    ∃ c s, writeItems (item :: items) = c :: s ∧ Written.isBlank c = false ∧ c ≠ ']' := by
  obtain ⟨c, s, hwrite, hhead⟩ := exists_head_write item
  cases items with
  | nil => exact ⟨c, s, by rw [writeItems, hwrite], hhead⟩
  | cons next items => exact ⟨c, _, by rw [writeItems, hwrite, List.cons_append], hhead⟩

theorem exists_head_writeMembers (member : String × Json) (members : List (String × Json)) :
    ∃ s, writeMembers (member :: members) = '"' :: s := by
  obtain ⟨key, value⟩ := member
  cases members with
  | nil => exact ⟨_, rfl⟩
  | cons next members => exact ⟨_, rfl⟩

/-! ## §B Reading what was written -/

namespace Written

theorem readItems_last {fuel : Nat} {s rest : List Char} {item : Written}
    (h : readValue fuel s = some (item, ']' :: rest)) :
    readItems (fuel + 1) s = some ([item], rest) := by
  rw [readItems, h]
  rfl

theorem readItems_next {fuel : Nat} {s more rest : List Char} {item : Written}
    {items : List Written} (h : readValue fuel s = some (item, ',' :: more))
    (hmore : readItems fuel more = some (items, rest)) :
    readItems (fuel + 1) s = some (item :: items, rest) := by
  rw [readItems, h]
  show ((readItems fuel more).bind fun read => some (item :: read.1, read.2)) = _
  rw [hmore]
  rfl

/-- Up to the colon a member is read as its key. -/
theorem readMembers_key (key : String) (fuel : Nat) (s : List Char) :
    readMembers (fuel + 1) (writeString key ++ ':' :: s) =
      (readValue fuel s).bind fun read =>
        match skipBlanks read.2 with
        | ',' :: more => (readMembers fuel more).bind fun rest =>
          some ((key.toList.map pieceOf, read.1) :: rest.1, rest.2)
        | '\x7d' :: rest => some ([(key.toList.map pieceOf, read.1)], rest)
        | _ => none := by
  have htext : writeString key ++ ':' :: s
      = '"' :: (key.toList.flatMap writeChar ++ '"' :: ':' :: s) := by
    simp only [writeString, List.cons_append, List.append_assoc, List.nil_append]
  rw [htext, readMembers, skipBlanks_cons (by decide)]
  show ((readPieces (key.toList.flatMap writeChar ++ '"' :: ':' :: s)).bind _) = _
  rw [readPieces_writeString]
  rfl

theorem readMembers_last {key : String} {fuel : Nat} {s rest : List Char} {value : Written}
    (h : readValue fuel s = some (value, '\x7d' :: rest)) :
    readMembers (fuel + 1) (writeString key ++ ':' :: s)
      = some ([(key.toList.map pieceOf, value)], rest) := by
  rw [readMembers_key, h]
  rfl

theorem readMembers_next {key : String} {fuel : Nat} {s more rest : List Char} {value : Written}
    {members : List (List Piece × Written)} (h : readValue fuel s = some (value, ',' :: more))
    (hmore : readMembers fuel more = some (members, rest)) :
    readMembers (fuel + 1) (writeString key ++ ':' :: s)
      = some ((key.toList.map pieceOf, value) :: members, rest) := by
  rw [readMembers_key, h]
  show ((readMembers fuel more).bind _) = _
  rw [hmore]
  rfl

/-- An array whose first item starts right behind the bracket. -/
theorem readValue_array {c : Char} {fuel : Nat} {s rest : List Char} {items : List Written}
    (hblank : isBlank c = false) (hclosing : c ≠ ']')
    (h : readItems fuel (c :: s) = some (items, rest)) :
    readValue (fuel + 1) ('[' :: c :: s) = some (.array items, rest) := by
  rw [readValue, skipBlanks_cons (by decide)]
  split
  case h_1 heq =>
    rw [← (List.cons.inj heq).2, skipBlanks_cons hblank]
    split
    case h_1 heq => exact absurd (List.cons.inj heq).1 hclosing
    case h_2 => rw [h, Option.bind_eq_bind, Option.bind_some]
  case h_2 heq => cases heq
  case h_3 hopen _ => exact absurd rfl (hopen (c :: s))

/-- An object whose first key starts right behind the brace. -/
theorem readValue_object {fuel : Nat} {s rest : List Char} {members : List (List Piece × Written)}
    (h : readMembers fuel ('"' :: s) = some (members, rest)) :
    readValue (fuel + 1) ('\x7b' :: '"' :: s) = some (.object members, rest) := by
  rw [readValue, skipBlanks_cons (by decide)]
  show ((readMembers fuel ('"' :: s)).bind _) = _
  rw [h]
  rfl

end Written

open Written

mutual

/-- A value is read from its text, whatever closes it. -/
theorem readValue_write : ∀ (json : Json) {fuel : Nat} {rest : List Char},
    2 * (write json).length ≤ fuel → Closed rest →
      readValue fuel (write json ++ rest) = some (written json, rest)
  | .null, fuel + 1, _, _, hrest => readValue_scalarText (scalarText_write .null) fuel hrest
  | .bool b, fuel + 1, _, _, hrest => readValue_scalarText (scalarText_write (.bool b)) fuel hrest
  | .whole n, fuel + 1, _, _, hrest => readValue_scalarText (scalarText_write (.whole n)) fuel hrest
  | .real x, fuel + 1, _, _, hrest => readValue_scalarText (scalarText_write (.real x)) fuel hrest
  | .string s, fuel + 1, _, _, hrest =>
    readValue_scalarText (scalarText_write (.string s)) fuel hrest
  | .array [], fuel + 1, _, _, _ => rfl
  | .array (item :: items), fuel + 1, rest, hfuel, _ => by
    simp only [write, List.length_append, List.length_cons] at hfuel
    have hitems := @readItems_write item items fuel rest (by omega)
    obtain ⟨c, s, hhead, hblank, hclosing⟩ := exists_head_writeItems item items
    rw [hhead] at hitems
    rw [write, List.cons_append, List.cons_append, List.append_assoc, List.cons_append,
      List.nil_append, hhead, List.cons_append]
    exact readValue_array hblank hclosing hitems
  | .object [], fuel + 1, _, _, _ => rfl
  | .object (member :: members), fuel + 1, rest, hfuel, _ => by
    simp only [write, List.length_append, List.length_cons] at hfuel
    have hmembers := @readMembers_write member members fuel rest (by omega)
    obtain ⟨s, hhead⟩ := exists_head_writeMembers member members
    rw [hhead] at hmembers
    rw [write, List.cons_append, List.cons_append, List.append_assoc, List.cons_append,
      List.nil_append, hhead, List.cons_append]
    exact readValue_object hmembers
  | json, 0, _, hfuel, _ => by
    obtain ⟨c, s, hwrite, -⟩ := exists_head_write json
    rw [hwrite, List.length_cons] at hfuel
    omega

/-- So are items up to the bracket behind them. -/
theorem readItems_write : ∀ (item : Json) (items : List Json) {fuel : Nat} {rest : List Char},
    2 * (writeItems (item :: items)).length + 1 ≤ fuel →
      readItems fuel (writeItems (item :: items) ++ ']' :: rest)
        = some (writtenItems (item :: items), rest)
  | item, [], fuel + 1, rest, hfuel => by
    rw [writeItems] at hfuel ⊢
    exact readItems_last (readValue_write item (by omega) (.bracket rest))
  | item, next :: items, fuel + 1, rest, hfuel => by
    simp only [writeItems, List.length_append, List.length_cons] at hfuel
    rw [writeItems, List.append_assoc, List.cons_append]
    exact readItems_next (readValue_write item (by omega) (.comma _))
      (readItems_write next items (by omega))

/-- So are members up to the brace behind them. -/
theorem readMembers_write : ∀ (member : String × Json) (members : List (String × Json))
    {fuel : Nat} {rest : List Char},
    2 * (writeMembers (member :: members)).length + 1 ≤ fuel →
      readMembers fuel (writeMembers (member :: members) ++ '\x7d' :: rest)
        = some (writtenMembers (member :: members), rest)
  | (key, value), [], fuel + 1, rest, hfuel => by
    simp only [writeMembers, List.length_append, List.length_cons] at hfuel
    rw [writeMembers, List.append_assoc, List.cons_append]
    exact readMembers_last (readValue_write value (by omega) (.brace rest))
  | (key, value), next :: members, fuel + 1, rest, hfuel => by
    simp only [writeMembers, List.length_append, List.length_cons] at hfuel
    rw [writeMembers, List.append_assoc, List.cons_append, List.append_assoc, List.cons_append]
    exact readMembers_next (readValue_write value (by omega) (.comma _))
      (readMembers_write next members (by omega))

end

/-- **`writtenRead?_write`** — the text of every JSON value is in the grammar, and it is read as the
value is written. -/
theorem writtenRead?_write (json : Json) : Written.read? (write json) = some (written json) := by
  have hread : readValue (2 * (write json).length + 2) (write json ++ [])
      = some (written json, []) :=
    readValue_write json (by omega) .nil
  rw [List.append_nil] at hread
  rw [Written.read?, hread]
  rfl

end DomainFilter.Json
