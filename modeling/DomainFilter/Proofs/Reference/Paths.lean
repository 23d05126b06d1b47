/-
# DomainFilter.Proofs.Reference.Paths — every position of a record has a path

A reference `object.` with a path walks into the record, one segment at a time. Here the walk is
described by what it meets: the fields and items that its segments name, and the obstacles at which
it ends without a value.

* §A What one segment says: an index, a way into a value, an obstacle. **`step?_eq_some_iff`** and
  **`step?_eq_none_iff`**.
* §B A walk follows its segments or is stopped at one of them: **`walk?_eq_some_iff`** and
  **`walk?_eq_none_iff`**.
* §C Steps to a position inside a value, and the text of them as a path, which is cut where they
  were joined and read as the indexes that were written.
* §D What the value at a position stands for.
* §E **`resolve_positions`** — every position of a record is addressed by the path of the steps that
  lead to it, and a path is unresolved exactly if its walk is stopped.

BOUNDARY: a key with a point in it is two segments, and nothing leads to its field. Indexes are words
of 64 bits, more than any array in memory has items; further behind nothing is addressed.
-/
import DomainFilter.Proofs.Number.Digits
import DomainFilter.Proofs.Verdict.OwnField

namespace DomainFilter

namespace Path

/-! ## §A One segment -/

/-- A segment says an index in decimal: digits, after a plus sign or without one, of a number that
is not too great. -/
inductive SaysIndex : List Char → Nat → Prop
  | digits {digits : List Char} (hne : digits ≠ []) (hdigits : ∀ c ∈ digits, c.isDigit = true)
      (hbound : Digits.read digits ≤ greatestIndex) : SaysIndex digits (Digits.read digits)
  | signed {digits : List Char} (hne : digits ≠ []) (hdigits : ∀ c ∈ digits, c.isDigit = true)
      (hbound : Digits.read digits ≤ greatestIndex) : SaysIndex ('+' :: digits) (Digits.read digits)

/-- A segment leads from a value to one inside it: to the field of an object under this key, or to
the item of an array at the index that it says. -/
inductive Leads : Value → List Char → Value → Prop
  | field {fields : Record} {segment : List Char} {next : Value}
      (hfield : Fields.get? (String.ofList segment) fields = some next) :
      Leads (.object fields) segment next
  | item {items : List Value} {segment : List Char} {i : Nat} {next : Value}
      (hindex : SaysIndex segment i) (hitem : items[i]? = some next) :
      Leads (.array items) segment next

/-- A segment is an obstacle at a value: a key that an object does not have, no index or one out of
bounds at an array, and any segment at a value that has nothing inside. -/
inductive Obstructs : Value → List Char → Prop
  | missingKey {fields : Record} {segment : List Char}
      (hmissing : Fields.get? (String.ofList segment) fields = none) :
      Obstructs (.object fields) segment
  | noIndex {items : List Value} {segment : List Char} (hnone : ∀ i, ¬ SaysIndex segment i) :
      Obstructs (.array items) segment
  | outOfBounds {items : List Value} {segment : List Char} {i : Nat}
      (hindex : SaysIndex segment i) (hbeyond : items.length ≤ i) :
      Obstructs (.array items) segment
  | scalar {value : Value} (hfields : value.fields? = none) (hitems : value.items? = none)
      (segment : List Char) : Obstructs value segment

section

variable {value next : Value} {segment : List Char} {i : Nat}

theorem indexDigits_of_isDigit {digits : List Char} (h : ∀ c ∈ digits, c.isDigit = true) :
    indexDigits digits = digits := by
  unfold indexDigits
  split
  · -- a plus sign is no digit
    have hplus := h '+' List.mem_cons_self
    exact absurd hplus (by decide)
  · rfl

/-- At most a plus sign stands before the digits. -/
theorem indexDigits_cases (segment : List Char) :
    segment = '+' :: indexDigits segment ∨ segment = indexDigits segment := by
  unfold indexDigits
  split
  · exact .inl rfl
  · exact .inr rfl

theorem index?_eq_some_iff : index? segment = some i ↔ SaysIndex segment i := by
  simp only [index?, List.all_eq_true, Option.ite_none_right_eq_some, Option.some_inj]
  constructor
  · rintro ⟨⟨hne, hdigits, hbound⟩, rfl⟩
    rcases indexDigits_cases segment with hsegment | hsegment
    · have hsays := SaysIndex.signed hne hdigits hbound
      rwa [← hsegment] at hsays
    · have hsays := SaysIndex.digits hne hdigits hbound
      rwa [← hsegment] at hsays ⊢
  · intro h
    cases h with
    | digits hne hdigits hbound =>
      rw [indexDigits_of_isDigit hdigits]
      exact ⟨⟨hne, hdigits, hbound⟩, rfl⟩
    | signed hne hdigits hbound => exact ⟨⟨hne, hdigits, hbound⟩, rfl⟩

theorem index?_eq_none_iff : index? segment = none ↔ ∀ i, ¬ SaysIndex segment i := by
  rw [Option.eq_none_iff_forall_ne_some]
  exact forall_congr' fun i => not_congr index?_eq_some_iff

/-- **`step?_eq_some_iff`** — a step goes where its segment leads. -/
theorem step?_eq_some_iff : step? value segment = some next ↔ Leads value segment next := by
  constructor
  · intro h
    cases value with
    | object fields => exact .field h
    | array items =>
      obtain ⟨i, hindex, hitem⟩ := Option.bind_eq_some_iff.mp h
      exact .item (index?_eq_some_iff.mp hindex) hitem
    | _ => cases h
  · intro h
    cases h with
    | field hfield => exact hfield
    | item hindex hitem =>
      show (index? segment).bind _ = some next
      rw [index?_eq_some_iff.mpr hindex]
      exact hitem

/-- **`step?_eq_none_iff`** — a step fails at an obstacle and nowhere else. -/
theorem step?_eq_none_iff : step? value segment = none ↔ Obstructs value segment := by
  constructor
  · intro h
    cases value with
    | object fields => exact .missingKey h
    | array items =>
      rw [step?] at h
      cases hindex : index? segment with
      | none => exact .noIndex (index?_eq_none_iff.mp hindex)
      | some i =>
        rw [hindex] at h
        exact .outOfBounds (index?_eq_some_iff.mp hindex) (List.getElem?_eq_none_iff.mp h)
    | _ => exact .scalar rfl rfl segment
  · intro h
    cases h with
    | missingKey hmissing => exact hmissing
    | noIndex hnone =>
      show (index? segment).bind _ = none
      rw [index?_eq_none_iff.mpr hnone]
      rfl
    | outOfBounds hindex hbeyond =>
      show (index? segment).bind _ = none
      rw [index?_eq_some_iff.mpr hindex]
      exact List.getElem?_eq_none_iff.mpr hbeyond
    | scalar hfields hitems =>
      -- what has no fields and no items has no way inside
      cases value with
      | object fields => cases hfields
      | array items => cases hitems
      | _ => rfl

end

/-! ## §B A walk -/

/-- A walk follows its segments, each from the value that the one before leads to. -/
inductive Follows : Value → List (List Char) → Value → Prop
  | stay (value : Value) : Follows value [] value
  | step {value next target : Value} {segment : List Char} {rest : List (List Char)}
      (hstep : Leads value segment next) (hrest : Follows next rest target) :
      Follows value (segment :: rest) target

/-- A walk is stopped: it follows its segments up to one that is an obstacle there. -/
def Stopped (value : Value) (path : List (List Char)) : Prop :=
  ∃ before segment after reached,
    path = before ++ segment :: after ∧ Follows value before reached ∧ Obstructs reached segment

section

variable {value next target : Value} {segment : List Char} {path rest : List (List Char)}

theorem walk?_cons (value : Value) (segment : List Char) (rest : List (List Char)) :
    walk? value (segment :: rest) = (step? value segment).bind (walk? · rest) := rfl

/-- **`walk?_eq_some_iff`** — a walk ends where its segments lead. -/
theorem walk?_eq_some_iff : walk? value path = some target ↔ Follows value path target := by
  induction path generalizing value with
  | nil =>
    constructor
    · intro h
      cases h
      exact .stay _
    · intro h
      cases h
      rfl
  | cons segment rest ih =>
    rw [walk?_cons, Option.bind_eq_some_iff]
    constructor
    · rintro ⟨next, hstep, hrest⟩
      exact .step (step?_eq_some_iff.mp hstep) (ih.mp hrest)
    · intro h
      cases h with
      | step hstep hrest => exact ⟨_, step?_eq_some_iff.mpr hstep, ih.mpr hrest⟩

theorem not_stopped_nil (value : Value) : ¬ Stopped value [] := by
  rintro ⟨before, segment, after, _, hpath, -⟩
  exact absurd hpath.symm (List.append_ne_nil_of_right_ne_nil before (List.cons_ne_nil _ _))

theorem Stopped.here (h : Obstructs value segment) : Stopped value (segment :: rest) :=
  ⟨[], segment, rest, value, rfl, .stay value, h⟩

theorem Stopped.later (hstep : Leads value segment next) (h : Stopped next rest) :
    Stopped value (segment :: rest) := by
  obtain ⟨before, obstacle, after, reached, rfl, hbefore, hobstacle⟩ := h
  exact ⟨segment :: before, obstacle, after, reached, rfl, .step hstep hbefore, hobstacle⟩

/-- A walk is stopped at its first segment, or goes a step and is stopped later. -/
theorem stopped_cons_iff :
    Stopped value (segment :: rest) ↔
      Obstructs value segment ∨ ∃ next, Leads value segment next ∧ Stopped next rest := by
  constructor
  · rintro ⟨before, obstacle, after, reached, hpath, hbefore, hobstacle⟩
    cases hbefore with
    | stay =>
      cases hpath
      exact .inl hobstacle
    | step hstep hrest =>
      cases hpath
      exact .inr ⟨_, hstep, _, _, _, _, rfl, hrest, hobstacle⟩
  · rintro (hobstacle | ⟨next, hstep, hstopped⟩)
    · exact .here hobstacle
    · exact .later hstep hstopped

/-- **`walk?_eq_none_iff`** — a walk has no end exactly if it is stopped. -/
theorem walk?_eq_none_iff : walk? value path = none ↔ Stopped value path := by
  induction path generalizing value with
  | nil => exact iff_of_false nofun (not_stopped_nil value)
  | cons segment rest ih =>
    rw [walk?_cons, stopped_cons_iff, ← step?_eq_none_iff]
    cases hstep : step? value segment with
    | none => exact iff_of_true rfl (.inl rfl)
    | some next =>
      show walk? next rest = none ↔ _
      rw [ih]
      constructor
      · intro hstopped
        exact .inr ⟨next, step?_eq_some_iff.mp hstep, hstopped⟩
      · rintro (hnone | ⟨other, hother, hstopped⟩)
        · cases hnone
        · -- the segment leads to one value only
          rw [step?_eq_some_iff.mpr hother] at hstep
          cases hstep
          exact hstopped

end

/-! ## §C Steps and their path -/

/-- A step into a value: to a field of an object, or to an item of an array. -/
inductive Step where
  | field (name : String)
  | item (index : UInt64)

/-- A step as a segment of a path: the key, or the index in decimal. -/
def Step.segment : Step → List Char
  | .field name => name.toList
  | .item index => Digits.write index.toNat

/-- The path of steps: their segments with points between them. -/
def ofSteps (steps : List Step) : String :=
  String.ofList (Text.joinWith '.' (steps.map Step.segment))

/-- Steps lead from a value to a position inside it: at each object to one of its fields, at each
array to one of its items. -/
inductive Position : Value → List Step → Value → Prop
  | here (value : Value) : Position value [] value
  | field {fields : Record} {name : String} {next target : Value} {steps : List Step}
      (hfield : Fields.get? name fields = some next) (hrest : Position next steps target) :
      Position (.object fields) (.field name :: steps) target
  | item {items : List Value} {index : UInt64} {next target : Value} {steps : List Step}
      (hitem : items[index.toNat]? = some next) (hrest : Position next steps target) :
      Position (.array items) (.item index :: steps) target

/-- The keys among the steps have no point in them. -/
def PointFree (steps : List Step) : Prop := ∀ name, .field name ∈ steps → '.' ∉ name.toList

/-- An index is read as it was written. -/
theorem saysIndex_write (index : UInt64) : SaysIndex (Digits.write index.toNat) index.toNat := by
  have hbound : index.toNat ≤ greatestIndex := Nat.le_sub_one_of_lt index.toNat_lt
  have hread : Digits.read (Digits.write index.toNat) = index.toNat := Digits.read_write _
  have hsays := SaysIndex.digits (Digits.write_ne_nil index.toNat)
    (fun _ hc => Digits.isDigit_of_mem_write hc) (hread.symm ▸ hbound)
  rwa [hread] at hsays

/-- Steps to a position are followed by the walk along their segments. -/
theorem Position.follows {value target : Value} {steps : List Step}
    (h : Position value steps target) : Follows value (steps.map Step.segment) target := by
  induction h with
  | here value => exact .stay value
  | @field fields name next target steps hfield _ ih =>
    refine .step (.field ?_) ih
    rw [Step.segment, String.ofList_toList]
    exact hfield
  | item hitem _ ih => exact .step (.item (saysIndex_write _) hitem) ih

theorem PointFree.not_mem_segment {steps : List Step} (h : PointFree steps) {segment : List Char}
    (hsegment : segment ∈ steps.map Step.segment) : '.' ∉ segment := by
  obtain ⟨step, hstep, rfl⟩ := List.mem_map.mp hsegment
  cases step with
  | field name => exact h name hstep
  | item index =>
    intro hpoint
    exact absurd (Digits.isDigit_of_mem_write hpoint) (by decide)

/-- The path of steps is cut into the segments that it was made of. -/
theorem segments_ofSteps {steps : List Step} (hne : steps ≠ []) (h : PointFree steps) :
    Text.segments '.' (ofSteps steps).toList = steps.map Step.segment := by
  rw [ofSteps, String.toList_ofList]
  exact Text.segments_joinWith (mt List.map_eq_nil_iff.mp hne) fun _ => h.not_mem_segment

end Path

/-! ## §D What the value at a position stands for -/

/-- The value that a value of the object stands for: a related record for its `id`, else for its
`name`, else for the string `null`, a null for that string too, and any other value for itself. -/
inductive Value.StandsFor : Value → Value → Prop
  | byId {fields : Record} {id : Value} (hid : Fields.get? "id" fields = some id) :
      StandsFor (.object fields) id
  | byName {fields : Record} {name : Value} (hid : Fields.get? "id" fields = none)
      (hname : Fields.get? "name" fields = some name) : StandsFor (.object fields) name
  | anonymous {fields : Record} (hid : Fields.get? "id" fields = none)
      (hname : Fields.get? "name" fields = none) : StandsFor (.object fields) (.string "null")
  | null : StandsFor .null (.string "null")
  | itself {value : Value} (hfields : value.fields? = none) (hnull : value ≠ .null) :
      StandsFor value value

theorem Symbol.standsFor_collapseObject (value : Value) : value.StandsFor (collapseObject value) := by
  cases value with
  | object fields =>
    rw [collapseObject, identity?]
    cases hid : Fields.get? "id" fields with
    | some id => exact .byId hid
    | none =>
      cases hname : Fields.get? "name" fields with
      | some name => exact .byName hid hname
      | none => exact .anonymous hid hname
  | null => exact .null
  | _ =>
    apply Value.StandsFor.itself rfl
    intro hnull
    cases hnull

/-! ## §E Positions of a record -/

namespace Symbol

/-- A reference to the object resolves to what the value at the end of its walk stands for. -/
theorem resolve_object_of_follows {ctx : Context} {path : String} {target : Value}
    (h : Path.Follows (.object ctx.object) (Text.segments '.' path.toList) target) :
    (ofValue (.string ("object." ++ path))).resolve ctx = .resolved (collapseObject target) := by
  have hlookup : Path.lookup? ctx.object path = some target := Path.walk?_eq_some_iff.mpr h
  rw [ofValue, ofText_object, resolve, objectValue?, hlookup]
  rfl

theorem resolve_object_eq_unresolved_iff {ctx : Context} {path : String} :
    (ofValue (.string ("object." ++ path))).resolve ctx = .unresolved ↔
      Path.Stopped (.object ctx.object) (Text.segments '.' path.toList) := by
  rw [ofValue, ofText_object, resolve, objectValue?, ← Path.walk?_eq_none_iff]
  show Resolution.ofOption ((Path.lookup? ctx.object path).map collapseObject) = _ ↔
    Path.lookup? ctx.object path = none
  cases Path.lookup? ctx.object path with
  | none => exact iff_of_true rfl rfl
  | some target =>
    constructor
    · intro hunresolved
      cases hunresolved
    · intro hnone
      cases hnone

/-- **`resolve_positions`** — wherever steps lead inside the record, through keys without points and
items of arrays, the reference `object.` with the path of the steps resolves to what the value there
stands for. And a reference with any path at all is unresolved exactly if the walk along its segments
is stopped. -/
theorem resolve_positions (ctx : Context) :
    (∀ (steps : List Path.Step) (target : Value), steps ≠ [] → Path.PointFree steps →
        Path.Position (.object ctx.object) steps target →
        ∃ found, target.StandsFor found
          ∧ (ofValue (.string ("object." ++ Path.ofSteps steps))).resolve ctx = .resolved found)
      ∧ ∀ path : String,
          (ofValue (.string ("object." ++ path))).resolve ctx = .unresolved ↔
            Path.Stopped (.object ctx.object) (Text.segments '.' path.toList) := by
  constructor
  · intro steps target hne hpoints hposition
    have hfollows : Path.Follows (.object ctx.object)
        (Text.segments '.' (Path.ofSteps steps).toList) target := by
      rw [Path.segments_ofSteps hne hpoints]
      exact hposition.follows
    exact ⟨_, standsFor_collapseObject target, resolve_object_of_follows hfollows⟩
  · intro path
    exact resolve_object_eq_unresolved_iff

/-- A record with an empty key, below it a key of digits, and there a null and a related record that
has a name and no id. -/
def shelf : Context :=
  Records.atYearZero
    { object := [("", .object [("0", .array [.null, .object [("name", .string "Acme")]])])] }

/-- The steps to the related record. -/
def stepsToName : List Path.Step := [.field "", .field "0", .item 1]

/-- The second item of the list is addressed, and resolves to its name. There is no third. -/
theorem resolve_positions_of_shelf :
    stepsToName ≠ [] ∧ Path.PointFree stepsToName
      ∧ Path.Position (.object shelf.object) stepsToName (.object [("name", .string "Acme")])
      ∧ (ofValue (.string "object..0.1")).resolve shelf = .resolved (.string "Acme")
      ∧ (ofValue (.string "object..0.2")).resolve shelf = .unresolved := by
  have hne : stepsToName ≠ [] := List.cons_ne_nil _ _
  have hpoints : Path.PointFree stepsToName := by
    intro name hname
    simp only [stepsToName, List.mem_cons, Path.Step.field.injEq, reduceCtorEq, List.not_mem_nil,
      or_false] at hname
    rcases hname with rfl | rfl <;> decide
  have hposition : Path.Position (.object shelf.object) stepsToName
      (.object [("name", .string "Acme")]) := .field rfl (.field rfl (.item rfl (.here _)))
  refine ⟨hne, hpoints, hposition, ?_, ?_⟩
  · obtain ⟨found, hfound, hresolve⟩ := (resolve_positions shelf).1 _ _ hne hpoints hposition
    -- without an id it is the name
    cases hfound with
    | byId hid => cases hid
    | byName hid hname =>
      cases hname
      exact hresolve
    | anonymous hid hname => cases hname
    | itself hfields => cases hfields
  · apply ((resolve_positions shelf).2 ".0.2").mpr
    have hindex : Path.SaysIndex ['2'] 2 := Path.saysIndex_write 2
    exact ⟨[[], ['0']], ['2'], [], _, rfl, .step (.field rfl) (.step (.field rfl) (.stay _)),
      .outOfBounds hindex (by decide)⟩

end Symbol

end DomainFilter
