/-
# DomainFilter.Proofs.Value.SignedZeros — equality and the signs of zeros

Equality of values compares numbers as numbers. It sees two things that are not in the values as
they are kept: the two zeros are one, and not-a-number is not equal to itself. Both are said here of
the values alone, so that what is true of all equal values can be proved by rewriting.

* §A Numbers: `unsignZero` drops the sign of a zero, and comparison cannot tell.
* §B Values: `unsignZeros` drops it everywhere, `hasNaN` finds a not-a-number at any depth.
* §C **`equals_iff`** — values are equal exactly if they are the same up to the signs of zeros and
  have no not-a-number in them. So equality is symmetric and transitive, and reflexive where nothing
  is not-a-number.
* §D The readings of a value as text, as truth and as a number, which cannot tell either.
* §E Records: fields, paths, and what a related record counts as.
-/
import DomainFilter.Reference.Symbol
import DomainFilter.Domain.Evaluation

namespace DomainFilter

/-! ## §A Numbers -/

namespace Binary64

/-- The number without the sign of a zero. -/
def unsignZero : Binary64 → Binary64
  | .nan => .nan
  | .signed negative m => if m = zeroMagnitude then zero else .signed negative m

theorem unsignZero_zero (negative : Bool) : unsignZero (.signed negative zeroMagnitude) = zero := by
  rw [unsignZero, if_pos rfl]

theorem unsignZero_of_ne_zero {m : Magnitude} (h : m ≠ zeroMagnitude) (negative : Bool) :
    unsignZero (.signed negative m) = .signed negative m := by
  rw [unsignZero, if_neg h]

/-- What is the same of both zeros is the same of every number and the number without the sign. -/
theorem unsignZero_congr {α : Type} (f : Binary64 → α)
    (hzeros : f (.signed true zeroMagnitude) = f zero) (x : Binary64) :
    f x.unsignZero = f x := by
  cases x with
  | nan => rfl
  | signed negative m =>
    by_cases hm : m = zeroMagnitude
    · subst hm
      rw [unsignZero_zero]
      cases negative with
      | false => rfl
      | true => exact hzeros.symm
    · rw [unsignZero_of_ne_zero hm]

theorem compare?_unsignZero_left (x y : Binary64) : x.unsignZero.compare? y = x.compare? y := by
  have hzeros : compare? (.signed true zeroMagnitude) y = compare? zero y := by cases y <;> rfl
  exact unsignZero_congr (·.compare? y) hzeros x

theorem compare?_unsignZero (x y : Binary64) :
    x.unsignZero.compare? y.unsignZero = x.compare? y := by
  calc x.unsignZero.compare? y.unsignZero
      = x.compare? y.unsignZero := compare?_unsignZero_left x _
    _ = (y.unsignZero.compare? x).map Ordering.swap := (compare?_swap _ _).symm
    _ = (y.compare? x).map Ordering.swap := by rw [compare?_unsignZero_left]
    _ = x.compare? y := compare?_swap y x

theorem less_unsignZero (x y : Binary64) : x.unsignZero.less y.unsignZero = x.less y := by
  rw [less, less, compare?_unsignZero]

theorem isNaN_eq_false {x : Binary64} (h : x ≠ .nan) : x.isNaN = false := by
  cases x with
  | nan => exact absurd rfl h
  | signed negative m => rfl

theorem isNaN_unsignZero (x : Binary64) : x.unsignZero.isNaN = x.isNaN :=
  unsignZero_congr isNaN rfl x

theorem isZero_unsignZero (x : Binary64) : x.unsignZero.isZero = x.isZero :=
  unsignZero_congr isZero rfl x

theorem unsignZero_unsignZero (x : Binary64) : x.unsignZero.unsignZero = x.unsignZero :=
  unsignZero_congr unsignZero rfl x

theorem text_of_exactInt? {x : Binary64} {n : Int} (h : x.exactInt? = some n) :
    x.text = Digits.writeInt n := by
  unfold text
  rw [h]

/-- Both zeros are the whole number zero. -/
theorem text_unsignZero (x : Binary64) : x.unsignZero.text = x.text := by
  have hzero : exactInt? zero = some 0 := by decide +kernel
  have hnegative : exactInt? (.signed true zeroMagnitude) = some 0 := by decide +kernel
  exact unsignZero_congr text ((text_of_exactInt? hnegative).trans (text_of_exactInt? hzero).symm) x

section Signed

variable {s t : Bool} {m n : Magnitude}

theorem eq_zeroMagnitude_iff : m = zeroMagnitude ↔ m.val = 0 := Fin.ext_iff

/-- Places on the line of numbers are the same for the same magnitude of the same sign, and for the
zeros. -/
theorem position_eq_iff :
    position s m = position t n ↔ m = n ∧ (s = t ∨ m = zeroMagnitude) := by
  rw [eq_zeroMagnitude_iff, Fin.ext_iff]
  cases s <;> cases t <;>
    simp only [position, Bool.false_eq_true, if_true, if_false, reduceCtorEq, true_or, false_or,
      and_true] <;> omega

theorem unsignZero_signed_eq_iff :
    unsignZero (.signed s m) = unsignZero (.signed t n) ↔
      m = n ∧ (s = t ∨ m = zeroMagnitude) := by
  by_cases hm : m = zeroMagnitude
  · subst hm
    by_cases hn : n = zeroMagnitude
    · subst hn
      simp [unsignZero_zero]
    · simp [unsignZero_zero, unsignZero_of_ne_zero hn, zero, Ne.symm hn]
  · by_cases hn : n = zeroMagnitude
    · subst hn
      simp [unsignZero_zero, unsignZero_of_ne_zero hm, zero, hm]
    · simp [unsignZero_of_ne_zero hm, unsignZero_of_ne_zero hn, hm, and_comm]

theorem unsignZero_signed_ne_nan : unsignZero (.signed s m) ≠ .nan := by
  rw [unsignZero]
  split <;> simp [zero]

end Signed

/-- Numbers are equal exactly if they are the same up to the sign of a zero and are numbers. -/
theorem equals_iff {x y : Binary64} :
    x.equals y = true ↔ x.unsignZero = y.unsignZero ∧ x.isNaN = false := by
  cases x with
  | nan => simp [equals, compare?, isNaN]
  | signed s m =>
    cases y with
    | nan =>
      have hne : unsignZero (.signed s m) ≠ unsignZero .nan := unsignZero_signed_ne_nan
      simp [equals, compare?, hne]
    | signed t n =>
      rw [unsignZero_signed_eq_iff, ← position_eq_iff]
      simp [equals, compare?, isNaN]

end Binary64

namespace Value

/-! ## §B Values -/

mutual

/-- The value without the signs of its zeros, at any depth. -/
def unsignZeros : Value → Value
  | .number x => .number x.unsignZero
  | .array items => .array (itemsUnsigned items)
  | .object fields => .object (fieldsUnsigned fields)
  | .null => .null
  | .bool b => .bool b
  | .string s => .string s

/-- The items without the signs of their zeros. -/
def itemsUnsigned : List Value → List Value
  | [] => []
  | item :: items => unsignZeros item :: itemsUnsigned items

/-- The fields without the signs of their zeros. -/
def fieldsUnsigned : List (String × Value) → List (String × Value)
  | [] => []
  | (key, value) :: fields => (key, unsignZeros value) :: fieldsUnsigned fields

end

mutual

/-- Whether there is a not-a-number in a value, at any depth. -/
def hasNaN : Value → Bool
  | .number x => x.isNaN
  | .array items => itemsHaveNaN items
  | .object fields => fieldsHaveNaN fields
  | _ => false

/-- Whether there is a not-a-number in a list of values. -/
def itemsHaveNaN : List Value → Bool
  | [] => false
  | item :: items => hasNaN item || itemsHaveNaN items

/-- Whether there is a not-a-number in a list of fields. -/
def fieldsHaveNaN : List (String × Value) → Bool
  | [] => false
  | (_, value) :: fields => hasNaN value || fieldsHaveNaN fields

end

theorem itemsUnsigned_eq_map (items : List Value) : itemsUnsigned items = items.map unsignZeros := by
  induction items with
  | nil => rfl
  | cons item items ih => rw [itemsUnsigned, ih, List.map_cons]

theorem isNull_unsignZeros (v : Value) : v.unsignZeros.isNull = v.isNull := by cases v <;> rfl

theorem isNumber_unsignZeros (v : Value) : v.unsignZeros.isNumber = v.isNumber := by
  cases v <;> rfl

/-! ## §C Equality -/

mutual

/-- **`equals_iff`** — values are equal exactly if they are the same up to the signs of zeros and
nothing in them is not-a-number. -/
theorem equals_iff : ∀ {a b : Value},
    a.equals b = true ↔ a.unsignZeros = b.unsignZeros ∧ a.hasNaN = false
  | .null, b => by cases b <;> simp [equals, unsignZeros, hasNaN]
  | .bool _, b => by cases b <;> simp [equals, unsignZeros, hasNaN]
  | .string _, b => by cases b <;> simp [equals, unsignZeros, hasNaN]
  | .number x, b => by
    cases b with
    | number y => simp [equals, unsignZeros, hasNaN, Binary64.equals_iff]
    | _ => simp [equals, unsignZeros]
  | .array items, b => by
    cases b with
    | array others => simp [equals, unsignZeros, hasNaN, itemsEqual_iff]
    | _ => simp [equals, unsignZeros]
  | .object fields, b => by
    cases b with
    | object others => simp [equals, unsignZeros, hasNaN, fieldsEqual_iff]
    | _ => simp [equals, unsignZeros]

theorem itemsEqual_iff : ∀ {xs ys : List Value},
    itemsEqual xs ys = true ↔ itemsUnsigned xs = itemsUnsigned ys ∧ itemsHaveNaN xs = false
  | [], [] => by simp [itemsEqual, itemsHaveNaN]
  | [], _ :: _ => by simp [itemsEqual, itemsUnsigned]
  | _ :: _, [] => by simp [itemsEqual, itemsUnsigned]
  | x :: xs, y :: ys => by
    have hfirst : x.equals y = true ↔ _ := equals_iff
    have hrest : itemsEqual xs ys = true ↔ _ := itemsEqual_iff
    simp only [itemsEqual, itemsUnsigned, itemsHaveNaN, Bool.and_eq_true, Bool.or_eq_false_iff,
      List.cons.injEq, hfirst, hrest]
    exact and_and_and_comm

theorem fieldsEqual_iff : ∀ {xs ys : List (String × Value)},
    fieldsEqual xs ys = true ↔ fieldsUnsigned xs = fieldsUnsigned ys ∧ fieldsHaveNaN xs = false
  | [], [] => by simp [fieldsEqual, fieldsHaveNaN]
  | [], (_, _) :: _ => by simp [fieldsEqual, fieldsUnsigned]
  | (_, _) :: _, [] => by simp [fieldsEqual, fieldsUnsigned]
  | (key, x) :: xs, (other, y) :: ys => by
    have hfirst : x.equals y = true ↔ _ := equals_iff
    have hrest : fieldsEqual xs ys = true ↔ _ := fieldsEqual_iff
    simp only [fieldsEqual, fieldsUnsigned, fieldsHaveNaN, Bool.and_eq_true, beq_iff_eq,
      Bool.or_eq_false_iff, List.cons.injEq, Prod.mk.injEq, hfirst, hrest]
    constructor
    · rintro ⟨⟨hkey, hvalue, hnan⟩, hfields, hnans⟩
      exact ⟨⟨⟨hkey, hvalue⟩, hfields⟩, hnan, hnans⟩
    · rintro ⟨⟨⟨hkey, hvalue⟩, hfields⟩, hnan, hnans⟩
      exact ⟨⟨hkey, hvalue, hnan⟩, hfields, hnans⟩

end

mutual

theorem hasNaN_unsignZeros : ∀ v : Value, v.unsignZeros.hasNaN = v.hasNaN
  | .null | .bool _ | .string _ => rfl
  | .number x => x.isNaN_unsignZero
  | .array items => itemsHaveNaN_itemsUnsigned items
  | .object fields => fieldsHaveNaN_fieldsUnsigned fields

theorem itemsHaveNaN_itemsUnsigned :
    ∀ items : List Value, itemsHaveNaN (itemsUnsigned items) = itemsHaveNaN items
  | [] => rfl
  | item :: items => by
    rw [itemsUnsigned, itemsHaveNaN, itemsHaveNaN, hasNaN_unsignZeros item,
      itemsHaveNaN_itemsUnsigned items]

theorem fieldsHaveNaN_fieldsUnsigned :
    ∀ fields : List (String × Value), fieldsHaveNaN (fieldsUnsigned fields) = fieldsHaveNaN fields
  | [] => rfl
  | (_, value) :: fields => by
    rw [fieldsUnsigned, fieldsHaveNaN, fieldsHaveNaN, hasNaN_unsignZeros value,
      fieldsHaveNaN_fieldsUnsigned fields]

end

mutual

theorem unsignZeros_unsignZeros : ∀ v : Value, v.unsignZeros.unsignZeros = v.unsignZeros
  | .null | .bool _ | .string _ => rfl
  | .number x => congrArg Value.number x.unsignZero_unsignZero
  | .array items => congrArg Value.array (itemsUnsigned_itemsUnsigned items)
  | .object fields => congrArg Value.object (fieldsUnsigned_fieldsUnsigned fields)

theorem itemsUnsigned_itemsUnsigned :
    ∀ items : List Value, itemsUnsigned (itemsUnsigned items) = itemsUnsigned items
  | [] => rfl
  | item :: items => by
    rw [itemsUnsigned, itemsUnsigned, unsignZeros_unsignZeros item,
      itemsUnsigned_itemsUnsigned items]

theorem fieldsUnsigned_fieldsUnsigned :
    ∀ fields : List (String × Value), fieldsUnsigned (fieldsUnsigned fields) = fieldsUnsigned fields
  | [] => rfl
  | (_, value) :: fields => by
    rw [fieldsUnsigned, fieldsUnsigned, unsignZeros_unsignZeros value,
      fieldsUnsigned_fieldsUnsigned fields]

end

/-- Values that are the same up to the signs of zeros both have a not-a-number or both do not. -/
theorem hasNaN_congr {a b : Value} (h : a.unsignZeros = b.unsignZeros) : a.hasNaN = b.hasNaN := by
  rw [← hasNaN_unsignZeros a, h, hasNaN_unsignZeros b]

theorem equals_symm {a b : Value} (h : a.equals b = true) : b.equals a = true := by
  obtain ⟨hsame, hnan⟩ := equals_iff.mp h
  exact equals_iff.mpr ⟨hsame.symm, by rw [← hasNaN_congr hsame, hnan]⟩

theorem equals_trans {a b c : Value} (hab : a.equals b = true) (hbc : b.equals c = true) :
    a.equals c = true := by
  obtain ⟨hsame, hnan⟩ := equals_iff.mp hab
  exact equals_iff.mpr ⟨hsame.trans (equals_iff.mp hbc).1, hnan⟩

theorem equals_unsignZeros (a b : Value) : a.unsignZeros.equals b.unsignZeros = a.equals b := by
  rw [Bool.eq_iff_iff, equals_iff, equals_iff, unsignZeros_unsignZeros, unsignZeros_unsignZeros,
    hasNaN_unsignZeros]

theorem memberOf_unsignZeros (value : Value) (items : List Value) :
    value.unsignZeros.memberOf (itemsUnsigned items) = value.memberOf items := by
  rw [memberOf, memberOf, itemsUnsigned_eq_map, List.any_map]
  simp only [Function.comp_def, equals_unsignZeros]

/-! ## §D Readings of a value -/

mutual

theorem text_unsignZeros : ∀ v : Value, v.unsignZeros.text = v.text
  | .null | .bool _ | .string _ | .object _ => rfl
  | .number x => x.text_unsignZero
  | .array items => itemsText_itemsUnsigned items

theorem itemsText_itemsUnsigned :
    ∀ items : List Value, itemsText (itemsUnsigned items) = itemsText items
  | [] => rfl
  | [item] => by
    rw [itemsUnsigned, itemsUnsigned, itemsText, itemsText, isNull_unsignZeros,
      text_unsignZeros item]
  | item :: next :: rest => by
    have hrest := itemsText_itemsUnsigned (next :: rest)
    rw [itemsUnsigned] at hrest
    rw [itemsUnsigned, itemsUnsigned, itemsText, itemsText, isNull_unsignZeros,
      text_unsignZeros item, hrest]

end

theorem isTruthy_unsignZeros (v : Value) : v.unsignZeros.isTruthy = v.isTruthy := by
  cases v with
  | number x =>
    rw [unsignZeros, isTruthy, isTruthy, Binary64.isZero_unsignZero, Binary64.isNaN_unsignZero]
  | _ => rfl

theorem isEmptyLike_unsignZeros (v : Value) : v.unsignZeros.isEmptyLike = v.isEmptyLike := by
  cases v with
  | array items => cases items <;> rfl
  | _ => rfl

/-- A value is taken for the same number, up to the sign of a zero. -/
theorem unsignZero_toNumber (v : Value) :
    v.unsignZeros.toNumber.unsignZero = v.toNumber.unsignZero := by
  cases v with
  | number x => exact x.unsignZero_unsignZero
  | _ => rfl

/-! ## §E Records -/

theorem get?_fieldsUnsigned (key : String) (fields : Record) :
    Fields.get? key (fieldsUnsigned fields) = (Fields.get? key fields).map unsignZeros := by
  induction fields with
  | nil => rfl
  | cons field fields ih =>
    obtain ⟨name, value⟩ := field
    by_cases hname : name = key
    · simp [fieldsUnsigned, Fields.get?, hname]
    · simp [fieldsUnsigned, Fields.get?, hname, ih]

theorem step?_unsignZeros (v : Value) (segment : List Char) :
    Path.step? v.unsignZeros segment = (Path.step? v segment).map unsignZeros := by
  cases v with
  | object fields => exact get?_fieldsUnsigned _ fields
  | array items =>
    rw [unsignZeros, Path.step?, Path.step?]
    cases Path.index? segment with
    | none => rfl
    | some i => simp [itemsUnsigned_eq_map]
  | _ => rfl

theorem walk?_unsignZeros (v : Value) (path : List (List Char)) :
    Path.walk? v.unsignZeros path = (Path.walk? v path).map unsignZeros := by
  induction path generalizing v with
  | nil => rfl
  | cons segment path ih =>
    rw [Path.walk?, Path.walk?, List.foldlM_cons, List.foldlM_cons, step?_unsignZeros]
    cases Path.step? v segment with
    | none => rfl
    | some next => exact ih next

theorem identity?_fieldsUnsigned (fields : Record) :
    Symbol.identity? (fieldsUnsigned fields) = (Symbol.identity? fields).map unsignZeros := by
  rw [Symbol.identity?, Symbol.identity?, get?_fieldsUnsigned, get?_fieldsUnsigned, Option.map_or]

theorem collapseObject_unsignZeros (v : Value) :
    Symbol.collapseObject v.unsignZeros = (Symbol.collapseObject v).unsignZeros := by
  cases v with
  | object fields =>
    rw [unsignZeros, Symbol.collapseObject, Symbol.collapseObject, identity?_fieldsUnsigned]
    cases Symbol.identity? fields <;> rfl
  | _ => rfl

theorem collapseParent_unsignZeros (v : Value) :
    Symbol.collapseParent v.unsignZeros = (Symbol.collapseParent v).unsignZeros := by
  cases v with
  | object fields =>
    rw [unsignZeros, Symbol.collapseParent, Symbol.collapseParent, identity?_fieldsUnsigned]
    cases Symbol.identity? fields <;> rfl
  | _ => rfl

theorem collapseOperand_unsignZeros (v : Value) :
    v.unsignZeros.collapseOperand = v.collapseOperand.unsignZeros := by
  cases v with
  | object fields =>
    rw [unsignZeros, collapseOperand, collapseOperand, get?_fieldsUnsigned]
    cases Fields.get? "id" fields <;> rfl
  | _ => rfl

end Value

end DomainFilter
