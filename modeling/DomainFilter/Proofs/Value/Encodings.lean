/-
# DomainFilter.Proofs.Value.Encodings — both JSON encodings decode to the same value

A value is encoded as JSON in two ways, which differ in how a number is written: as a whole number
where that is exact, or always as a real one. Everything else is written part by part, so what a
decoded value is depends on what becomes of its numbers.

* §A `mapNumbers`, a value with something else in the place of each number, and what carries over
  from the numbers to the value.
* §B **`ofJson_encode`** — decoding an encoded value is decoding each encoded number in its place.
* §C **`equals_ofJson`** — both encodings decode to the value with null for each number that is not
  finite, so to a value equal to the one encoded if all its numbers are finite.

BOUNDARY: equality does not see that the sign of a zero is lost in a whole number.
-/
import DomainFilter.Proofs.Number.ReadBack
import DomainFilter.Value.Json

namespace DomainFilter.Value

/-! ## §A Numbers in their places -/

mutual

/-- The value with something else in the place of each number, at any depth. -/
def mapNumbers (f : Binary64 → Value) : Value → Value
  | .number x => f x
  | .array items => .array (mapItemNumbers f items)
  | .object fields => .object (mapFieldNumbers f fields)
  | .null => .null
  | .bool b => .bool b
  | .string s => .string s

/-- The items with something else in the place of each number. -/
def mapItemNumbers (f : Binary64 → Value) : List Value → List Value
  | [] => []
  | item :: items => mapNumbers f item :: mapItemNumbers f items

/-- The fields with something else in the place of each number. -/
def mapFieldNumbers (f : Binary64 → Value) : List (String × Value) → List (String × Value)
  | [] => []
  | (key, value) :: fields => (key, mapNumbers f value) :: mapFieldNumbers f fields

end

mutual

/-- Whether every number in a value is finite, at any depth. -/
def allFinite : Value → Bool
  | .number x => x.isFinite
  | .array items => itemsAllFinite items
  | .object fields => fieldsAllFinite fields
  | _ => true

/-- Whether every number in a list of values is finite. -/
def itemsAllFinite : List Value → Bool
  | [] => true
  | item :: items => allFinite item && itemsAllFinite items

/-- Whether every number in a list of fields is finite. -/
def fieldsAllFinite : List (String × Value) → Bool
  | [] => true
  | (_, value) :: fields => allFinite value && fieldsAllFinite fields

end

section

variable {f g : Binary64 → Value}

mutual

/-- What is the same of every number up to the signs of zeros is the same of the value. -/
theorem unsignZeros_mapNumbers (h : ∀ x, (f x).unsignZeros = (g x).unsignZeros) :
    ∀ v : Value, (v.mapNumbers f).unsignZeros = (v.mapNumbers g).unsignZeros
  | .null | .bool _ | .string _ => rfl
  | .number x => h x
  | .array items => congrArg Value.array (itemsUnsigned_mapItemNumbers h items)
  | .object fields => congrArg Value.object (fieldsUnsigned_mapFieldNumbers h fields)

theorem itemsUnsigned_mapItemNumbers (h : ∀ x, (f x).unsignZeros = (g x).unsignZeros) :
    ∀ items, itemsUnsigned (mapItemNumbers f items) = itemsUnsigned (mapItemNumbers g items)
  | [] => rfl
  | item :: items => by
    rw [mapItemNumbers, mapItemNumbers, itemsUnsigned, itemsUnsigned,
      unsignZeros_mapNumbers h item, itemsUnsigned_mapItemNumbers h items]

theorem fieldsUnsigned_mapFieldNumbers (h : ∀ x, (f x).unsignZeros = (g x).unsignZeros) :
    ∀ fields,
      fieldsUnsigned (mapFieldNumbers f fields) = fieldsUnsigned (mapFieldNumbers g fields)
  | [] => rfl
  | (_, value) :: fields => by
    rw [mapFieldNumbers, mapFieldNumbers, fieldsUnsigned, fieldsUnsigned,
      unsignZeros_mapNumbers h value, fieldsUnsigned_mapFieldNumbers h fields]

end

mutual

/-- Where nothing in the place of a number is not-a-number, nothing in the value is. -/
theorem hasNaN_mapNumbers (h : ∀ x, (f x).hasNaN = false) :
    ∀ v : Value, (v.mapNumbers f).hasNaN = false
  | .null | .bool _ | .string _ => rfl
  | .number x => h x
  | .array items => itemsHaveNaN_mapItemNumbers h items
  | .object fields => fieldsHaveNaN_mapFieldNumbers h fields

theorem itemsHaveNaN_mapItemNumbers (h : ∀ x, (f x).hasNaN = false) :
    ∀ items, itemsHaveNaN (mapItemNumbers f items) = false
  | [] => rfl
  | item :: items => by
    rw [mapItemNumbers, itemsHaveNaN, hasNaN_mapNumbers h item,
      itemsHaveNaN_mapItemNumbers h items, Bool.or_false]

theorem fieldsHaveNaN_mapFieldNumbers (h : ∀ x, (f x).hasNaN = false) :
    ∀ fields, fieldsHaveNaN (mapFieldNumbers f fields) = false
  | [] => rfl
  | (_, value) :: fields => by
    rw [mapFieldNumbers, fieldsHaveNaN, hasNaN_mapNumbers h value,
      fieldsHaveNaN_mapFieldNumbers h fields, Bool.or_false]

end

mutual

/-- A value stays as it is where every finite number does, if it has no other numbers. -/
theorem mapNumbers_eq_self (h : ∀ x, x.isFinite = true → f x = .number x) :
    ∀ {v : Value}, v.allFinite = true → v.mapNumbers f = v
  | .null, _ | .bool _, _ | .string _, _ => rfl
  | .number x, hx => h x hx
  | .array _, hitems => congrArg Value.array (mapItemNumbers_eq_self h hitems)
  | .object _, hfields => congrArg Value.object (mapFieldNumbers_eq_self h hfields)

theorem mapItemNumbers_eq_self (h : ∀ x, x.isFinite = true → f x = .number x) :
    ∀ {items : List Value}, itemsAllFinite items = true → mapItemNumbers f items = items
  | [], _ => rfl
  | item :: items, hall => by
    obtain ⟨hitem, hitems⟩ := Bool.and_eq_true_iff.mp hall
    rw [mapItemNumbers, mapNumbers_eq_self h hitem, mapItemNumbers_eq_self h hitems]

theorem mapFieldNumbers_eq_self (h : ∀ x, x.isFinite = true → f x = .number x) :
    ∀ {fields : List (String × Value)}, fieldsAllFinite fields = true →
      mapFieldNumbers f fields = fields
  | [], _ => rfl
  | (key, value) :: fields, hall => by
    obtain ⟨hvalue, hfields⟩ := Bool.and_eq_true_iff.mp hall
    rw [mapFieldNumbers, mapNumbers_eq_self h hvalue, mapFieldNumbers_eq_self h hfields]

end

end

/-! ## §B Decoding what was encoded -/

section

variable (number : Binary64 → Json)

mutual

/-- **`ofJson_encode`** — an encoded value decodes to the value with what its encoded numbers decode
to in their places. -/
theorem ofJson_encode : ∀ v : Value, ofJson (encode number v) = v.mapNumbers (ofJson ∘ number)
  | .null | .bool _ | .string _ | .number _ => rfl
  | .array items => congrArg Value.array (itemsOfJson_encodeItems items)
  | .object fields => congrArg Value.object (fieldsOfJson_encodeFields fields)

theorem itemsOfJson_encodeItems :
    ∀ items, itemsOfJson (encodeItems number items) = mapItemNumbers (ofJson ∘ number) items
  | [] => rfl
  | item :: items => by
    rw [encodeItems, itemsOfJson, mapItemNumbers, ofJson_encode item,
      itemsOfJson_encodeItems items]

theorem fieldsOfJson_encodeFields :
    ∀ fields, fieldsOfJson (encodeFields number fields) = mapFieldNumbers (ofJson ∘ number) fields
  | [] => rfl
  | (_, value) :: fields => by
    rw [encodeFields, fieldsOfJson, mapFieldNumbers, ofJson_encode value,
      fieldsOfJson_encodeFields fields]

end

end

/-! ## §C Finite numbers -/

/-- A number, or null in the place of one that is not finite. -/
def finiteNumber (x : Binary64) : Value := if x.isFinite then .number x else .null

/-- The value with null in the place of each number that is not finite, at any depth. -/
def finitePart (v : Value) : Value := v.mapNumbers finiteNumber

theorem finiteNumber_of_isFinite {x : Binary64} (h : x.isFinite = true) :
    finiteNumber x = .number x := if_pos h

theorem hasNaN_finiteNumber (x : Binary64) : (finiteNumber x).hasNaN = false := by
  cases x with
  | nan => rfl
  | signed negative m =>
    rw [finiteNumber]
    split <;> rfl

theorem ofJson_realJson (x : Binary64) : ofJson (realJson x) = finiteNumber x := by
  rw [realJson, finiteNumber]
  split <;> rfl

/-- A number that is written whole is finite, and decodes to itself but for the sign of a zero. -/
theorem unsignZeros_ofJson_numberJson (x : Binary64) :
    (ofJson (numberJson x)).unsignZeros = (finiteNumber x).unsignZeros := by
  rw [numberJson]
  cases hwhole : x.exactInt? with
  | none => exact congrArg unsignZeros (ofJson_realJson x)
  | some n =>
    have hfinite : x.isFinite = true := Binary64.isFinite_of_exactInt? hwhole
    rw [finiteNumber_of_isFinite hfinite]
    show Value.number (Binary64.ofInt n).unsignZero = .number x.unsignZero
    rw [Binary64.ofInt_of_exactInt? hwhole, Binary64.unsignZero_unsignZero]

/-- **`equals_ofJson`** — encoded in either way, a value decodes to the value with null in the place
of each number that is not finite; and to itself if there is none, under the equality of values. -/
theorem equals_ofJson (v : Value) :
    (ofJson v.toJson).equals v.finitePart = true
      ∧ (ofJson v.toRealJson).equals v.finitePart = true
      ∧ (v.allFinite = true →
          (ofJson v.toJson).equals v = true ∧ (ofJson v.toRealJson).equals v = true) := by
  have hnan : v.finitePart.hasNaN = false := hasNaN_mapNumbers hasNaN_finiteNumber v
  have hplain : (ofJson v.toJson).unsignZeros = v.finitePart.unsignZeros := by
    rw [toJson, ofJson_encode]
    exact unsignZeros_mapNumbers unsignZeros_ofJson_numberJson v
  have hreal : (ofJson v.toRealJson).unsignZeros = v.finitePart.unsignZeros := by
    rw [toRealJson, ofJson_encode]
    exact unsignZeros_mapNumbers (fun x => congrArg unsignZeros (ofJson_realJson x)) v
  have hequal : (ofJson v.toJson).equals v.finitePart = true
      ∧ (ofJson v.toRealJson).equals v.finitePart = true :=
    ⟨equals_iff.mpr ⟨hplain, hasNaN_congr hplain ▸ hnan⟩,
      equals_iff.mpr ⟨hreal, hasNaN_congr hreal ▸ hnan⟩⟩
  refine ⟨hequal.1, hequal.2, fun hfinite => ?_⟩
  have hself : v.finitePart = v :=
    mapNumbers_eq_self (fun _ => finiteNumber_of_isFinite) hfinite
  rwa [hself] at hequal

/-- A record with a negative zero, the greatest number that is written whole, the least positive
number and one tenth. -/
def measured : Value :=
  .object [("counts", .array [.number (.signed true Binary64.zeroMagnitude),
      .number (.ofNat Binary64.greatestExact), .null]),
    ("rates", .object [("least", .number (.signed false ⟨1, by decide⟩)),
      ("tenth", .number .oneTenth)])]

/-- It decodes to itself. -/
theorem equals_ofJson_measured :
    measured.allFinite = true ∧ (ofJson measured.toJson).equals measured = true
      ∧ (ofJson measured.toRealJson).equals measured = true := by
  have hfinite : measured.allFinite = true := by decide +kernel
  exact ⟨hfinite, (equals_ofJson measured).2.2 hfinite⟩

end DomainFilter.Value
