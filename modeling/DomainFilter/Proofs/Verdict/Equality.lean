/-
# DomainFilter.Proofs.Verdict.Equality — equal inputs cannot be told apart

Verdicts read values as texts, as numbers, as truths and as members of lists, and none of these
readings sees the sign of a zero. So a domain says in a context what it says with the signs of all
zeros dropped, in itself and in the records. Equal domains and equal records are the same after that.

* §A Operators: **`ofOperator_unsignZeros`**.
* §B References, with the context's zeros unsigned, resolve to the same with its zeros unsigned.
* §C Conditions and domains: tested, evaluated and parsed.
* §D **`equal_inputs_same_verdicts`** — equality is symmetric and transitive, and inputs that are
  equal have the same verdicts. The signs of zeros alone make no difference also beside a
  not-a-number, where nothing is equal to itself.
-/
import DomainFilter.Proofs.Value.SignedZeros
import DomainFilter.Proofs.Verdict.Dependence

namespace DomainFilter

open Value (unsignZeros itemsUnsigned fieldsUnsigned)

/-! ## §A Operators -/

namespace Verdict

theorem compare?_of_numeric? {x y : Binary64} {value : Value} (h : value.numeric? = some y) :
    compare? (.number x) value = x.compare? y := by
  unfold compare?
  rw [h]

theorem compare?_of_no_numeric? {x : Binary64} {value : Value} (h : value.numeric? = none) :
    compare? (.number x) value = some (Text.order x.text value.text) := by
  unfold compare?
  rw [h]
  rfl

theorem compare?_unsignZeros (operand value : Value) :
    compare? operand.unsignZeros value.unsignZeros = compare? operand value := by
  have htexts : Text.order operand.unsignZeros.text value.unsignZeros.text
      = Text.order operand.text value.text := by
    rw [Value.text_unsignZeros, Value.text_unsignZeros]
  cases operand with
  | number x =>
    cases value with
    | number y => exact x.compare?_unsignZero y
    | string s =>
      -- a text that says a number keeps the sign of its zero
      cases hnumeral : (Value.string s).numeric? with
      | none =>
        rw [unsignZeros, unsignZeros, compare?_of_no_numeric? hnumeral,
          compare?_of_no_numeric? hnumeral, x.text_unsignZero]
      | some y =>
        rw [unsignZeros, unsignZeros, compare?_of_numeric? hnumeral, compare?_of_numeric? hnumeral,
          x.compare?_unsignZero_left]
    | _ => exact congrArg some htexts
  | _ => exact congrArg some htexts

theorem unsignZero_bound (value : Value) :
    (bound value.unsignZeros).unsignZero = (bound value).unsignZero := by
  have hnumber := value.unsignZero_toNumber
  have hnan : value.unsignZeros.toNumber.isNaN = value.toNumber.isNaN := by
    rw [← Binary64.isNaN_unsignZero, hnumber, Binary64.isNaN_unsignZero]
  rw [bound, bound, hnan]
  cases value.toNumber.isNaN with
  | true => rfl
  | false => exact hnumber

theorem isCheck_unsignZeros (operand value : Value) :
    isCheck operand.unsignZeros value.unsignZeros = isCheck operand value := by
  have htruth : asksTruth value.unsignZeros = asksTruth value := by cases value <;> rfl
  have hempty : asksEmptiness value.unsignZeros = asksEmptiness value := by cases value <;> rfl
  rw [isCheck, isCheck, htruth, hempty, Value.isTruthy_unsignZeros, Value.isEmptyLike_unsignZeros]

theorem memberOf_asList_unsignZeros (operand value : Value) :
    operand.unsignZeros.memberOf (asList value.unsignZeros) = operand.memberOf (asList value) := by
  have hlist : asList value.unsignZeros = itemsUnsigned (asList value) := by cases value <;> rfl
  rw [hlist, Value.memberOf_unsignZeros]

theorem map_items?_unsignZeros (operand value : Value) :
    operand.unsignZeros.items?.map value.unsignZeros.memberOf
      = operand.items?.map value.memberOf := by
  cases operand with
  | array items => exact congrArg some (value.memberOf_unsignZeros items)
  | _ => rfl

theorem less_of_unsignZero {x x' y y' : Binary64} (hx : x.unsignZero = x'.unsignZero)
    (hy : y.unsignZero = y'.unsignZero) : x.less y = x'.less y' := by
  rw [← Binary64.less_unsignZero x, hx, hy, Binary64.less_unsignZero]

theorem ofCanonical_unsignZeros (operator : Operator) (operand value : Value) :
    ofCanonical operator operand.unsignZeros value.unsignZeros
      = ofCanonical operator operand value := by
  have hnumber := operand.unsignZero_toNumber
  have hbound := unsignZero_bound value
  cases operator with
  | gt => exact congrArg some (less_of_unsignZero hbound hnumber)
  | lt => exact congrArg some (less_of_unsignZero hnumber hbound)
  | like =>
    rw [ofCanonical, ofCanonical, isLike, isLike, Value.text_unsignZeros, Value.text_unsignZeros]
  | ilike =>
    rw [ofCanonical, ofCanonical, isLikeIgnoringCase, isLikeIgnoringCase, Value.text_unsignZeros,
      Value.text_unsignZeros]
  | is => exact isCheck_unsignZeros operand value
  | isNot => rw [ofCanonical, ofCanonical, isCheck_unsignZeros]
  | isIn => rw [ofCanonical, ofCanonical, memberOf_asList_unsignZeros]
  | notIn => rw [ofCanonical, ofCanonical, memberOf_asList_unsignZeros]
  | contains => exact map_items?_unsignZeros operand value
  | unsupported token => rfl
  | _ => simp only [ofCanonical, compare?_unsignZeros]

/-- **`ofOperator_unsignZeros`** — no operator sees the sign of a zero, at any depth of its operand
or its value. -/
theorem ofOperator_unsignZeros (operator : Operator) (operand value : Value) :
    ofOperator operator operand.unsignZeros value.unsignZeros
      = ofOperator operator operand value := by
  rw [ofOperator, ofOperator, Value.isNumber_unsignZeros, ofCanonical_unsignZeros]

end Verdict

/-! ## §B References -/

/-- The records without the signs of their zeros. -/
def Records.unsignZeros (records : Records) : Records where
  object := fieldsUnsigned records.object
  user := fieldsUnsigned records.user
  parent := fieldsUnsigned records.parent
  env := fieldsUnsigned records.env

/-- The context without the signs of the zeros in its records. -/
def Context.unsignZeros (ctx : Context) : Context :=
  { ctx.toRecords.unsignZeros with now := ctx.now, zone := ctx.zone }

/-- What a reference resolved to, without the signs of its zeros. -/
def Resolution.unsignZeros : Resolution → Resolution
  | .literal => .literal
  | .resolved value => .resolved value.unsignZeros
  | .unresolved => .unresolved

theorem Resolution.ofOption_map_unsignZeros (found : Option Value) :
    ofOption (found.map Value.unsignZeros) = (ofOption found).unsignZeros := by
  cases found <;> rfl

namespace Symbol

theorem ofValue_unsignZeros (value : Value) : ofValue value.unsignZeros = ofValue value := by
  cases value <;> rfl

theorem resolve_unsignZeros (ctx : Context) (symbol : Symbol) :
    symbol.resolve ctx.unsignZeros = (symbol.resolve ctx).unsignZeros := by
  cases symbol with
  | literal => rfl
  | object path =>
    have hwalk : Path.lookup? (fieldsUnsigned ctx.object) path
        = (Path.lookup? ctx.object path).map unsignZeros :=
      Value.walk?_unsignZeros (.object ctx.object) _
    rw [resolve, resolve, ← Resolution.ofOption_map_unsignZeros, objectValue?, objectValue?,
      Context.unsignZeros, Records.unsignZeros, hwalk, Option.map_map, Option.map_map]
    simp only [Function.comp_def, Value.collapseObject_unsignZeros]
  | user key =>
    rw [resolve, resolve, ← Resolution.ofOption_map_unsignZeros]
    exact congrArg Resolution.ofOption (Value.get?_fieldsUnsigned key ctx.user)
  | parent key =>
    rw [resolve, resolve, ← Resolution.ofOption_map_unsignZeros, parentValue?, parentValue?,
      Context.unsignZeros, Records.unsignZeros, Value.get?_fieldsUnsigned, Option.map_map,
      Option.map_map]
    simp only [Function.comp_def, Value.collapseParent_unsignZeros]
  | date descriptor => rfl
  | env key =>
    rw [resolve, resolve, Context.unsignZeros, Records.unsignZeros, Value.get?_fieldsUnsigned]
    cases Fields.get? key ctx.env <;> rfl

end Symbol

theorem Record.operand_unsignZeros (record : Record) (operand : Value) :
    Record.operand (fieldsUnsigned record) operand.unsignZeros
      = (Record.operand record operand).unsignZeros := by
  cases operand with
  | string name =>
    rw [unsignZeros, Record.operand, Record.operand, Value.get?_fieldsUnsigned]
    cases Fields.get? name record with
    | none => rfl
    | some field => exact field.collapseOperand_unsignZeros
  | _ => rfl

/-! ## §C Conditions and domains -/

namespace Condition

/-- The condition without the signs of the zeros in its operand and its value. -/
def unsignZeros (c : Condition) : Condition :=
  ⟨c.operand.unsignZeros, c.operator, c.value.unsignZeros⟩

theorem resolved_unsignZeros (ctx : Context) (c : Condition) :
    c.unsignZeros.resolved ctx.unsignZeros
      = ⟨c.operand.unsignZeros, c.operator, (c.resolved ctx).value.map Value.unsignZeros⟩ := by
  rw [resolved, resolved, unsignZeros, Symbol.ofValue_unsignZeros, Symbol.resolve_unsignZeros]
  cases (Symbol.ofValue c.value).resolve ctx <;> rfl

theorem verdictIn_unsignZeros (ctx : Context) (c : Condition) :
    c.unsignZeros.verdictIn ctx.unsignZeros = c.verdictIn ctx := by
  rw [verdictIn_eq_bind, verdictIn_eq_bind, resolved_unsignZeros]
  cases (c.resolved ctx).value with
  | none => rfl
  | some value =>
    change Verdict.ofOperator c.operator
      (Record.operand (fieldsUnsigned ctx.object) c.operand.unsignZeros) value.unsignZeros = _
    rw [Record.operand_unsignZeros, Verdict.ofOperator_unsignZeros]
    rfl

theorem verdict_unsignZeros (c : Condition) : c.unsignZeros.verdict = c.verdict :=
  Verdict.ofOperator_unsignZeros c.operator c.operand c.value

theorem substitute_unsignZeros (ctx : Context) (c : Condition) :
    c.unsignZeros.substitute ctx.unsignZeros = (c.substitute ctx).unsignZeros := by
  rw [substitute, substitute, unsignZeros, Symbol.ofValue_unsignZeros, Symbol.resolve_unsignZeros]
  cases (Symbol.ofValue c.value).resolve ctx <;> rfl

/-- The dates of a condition do not see the signs of zeros either. -/
theorem calendarError?_unsignZeros (ctx : Context) (c : Condition) :
    (Symbol.ofValue c.unsignZeros.value).calendarError? ctx.unsignZeros
      = (Symbol.ofValue c.value).calendarError? ctx := by
  rw [unsignZeros, Symbol.ofValue_unsignZeros]
  exact Symbol.calendarError?_of_clock rfl rfl _

end Condition

namespace Domain

/-- The domain without the signs of its zeros. -/
def unsignZeros (d : Domain) : Domain := d.mapConditions Condition.unsignZeros

theorem test_unsignZeros (d : Domain) : d.unsignZeros.test = d.test := by
  rw [test_eq_holdsBy, test_eq_holdsBy, unsignZeros, holdsBy_mapConditions]
  exact holdsBy_congr fun c _ => c.verdict_unsignZeros

/-- **`evaluate_unsignZeros`** — evaluation does not see the signs of zeros. -/
theorem evaluate_unsignZeros (ctx : Context) (d : Domain) :
    d.unsignZeros.evaluate ctx.unsignZeros = d.evaluate ctx :=
  evaluate_mapConditions_eq (fun c _ => c.calendarError?_unsignZeros ctx)
    fun c _ => c.verdictIn_unsignZeros ctx

theorem substitute_unsignZeros (ctx : Context) (d : Domain) :
    d.unsignZeros.substitute ctx.unsignZeros = (d.substitute ctx).unsignZeros := by
  simp only [unsignZeros, substitute, mapConditions, Clause.mapConditions, List.map_map,
    Function.comp_def, Condition.substitute_unsignZeros]

theorem parse_unsignZeros (ctx : Context) (d : Domain) :
    d.unsignZeros.parse ctx.unsignZeros = (d.parse ctx).map unsignZeros := by
  have herror : d.unsignZeros.calendarError? ctx.unsignZeros = d.calendarError? ctx := by
    rw [calendarError?_eq, calendarError?_eq, unsignZeros, conditions_mapConditions, List.map_map]
    simp only [Function.comp_def, Condition.calendarError?_unsignZeros]
  rw [parse, parse, map_unlessCalendarError, unlessCalendarError, unlessCalendarError, herror,
    substitute_unsignZeros]

/-- Parsed first, a domain still does not see them: the values that references leave are those of
the records. -/
theorem parse_evaluate_unsignZeros (ctx : Context) (d : Domain) :
    (d.unsignZeros.parse ctx.unsignZeros >>= evaluate ctx.unsignZeros)
      = (d.parse ctx >>= evaluate ctx) := by
  rw [parse_unsignZeros]
  cases d.parse ctx with
  | error e => rfl
  | ok parsed => exact evaluate_unsignZeros ctx parsed

end Domain

/-! ## §D Equal inputs -/

/-- Equality of records, field by field. -/
def Records.equals (records other : Records) : Bool :=
  Value.fieldsEqual records.object other.object && Value.fieldsEqual records.user other.user
    && Value.fieldsEqual records.parent other.parent && Value.fieldsEqual records.env other.env

theorem Records.unsignZeros_eq_of_equals {records other : Records}
    (h : records.equals other = true) : records.unsignZeros = other.unsignZeros := by
  simp only [equals, Bool.and_eq_true, Value.fieldsEqual_iff] at h
  obtain ⟨⟨⟨hobject, huser⟩, hparent⟩, henv⟩ := h
  rw [unsignZeros, unsignZeros, hobject.1, huser.1, hparent.1, henv.1]

/-- Lists that agree item by item after a change are the same after it. -/
theorem map_eq_map_of_zip_all {α β : Type} {same : α → α → Bool} {f : α → β}
    (hsame : ∀ x y, same x y = true → f x = f y) {xs ys : List α}
    (hlength : xs.length = ys.length)
    (hall : ((xs.zip ys).all fun (x, y) => same x y) = true) : xs.map f = ys.map f := by
  induction xs generalizing ys with
  | nil => rw [List.length_eq_zero_iff.mp hlength.symm]
  | cons x xs ih =>
    cases ys with
    | nil => cases hlength
    | cons y ys =>
      rw [List.zip_cons_cons, List.all_cons, Bool.and_eq_true] at hall
      rw [List.map_cons, List.map_cons, hsame x y hall.1, ih (Nat.succ.inj hlength) hall.2]

theorem Condition.unsignZeros_eq_of_equals {c d : Condition} (h : c.equals d = true) :
    c.unsignZeros = d.unsignZeros := by
  simp only [equals, Bool.and_eq_true, beq_iff_eq, Value.equals_iff] at h
  obtain ⟨⟨hoperand, hoperator⟩, hvalue⟩ := h
  rw [unsignZeros, unsignZeros, hoperand.1, hoperator, hvalue.1]

theorem Clause.unsignZeros_eq_of_equals {c d : Clause} (h : c.equals d = true) :
    c.mapConditions Condition.unsignZeros = d.mapConditions Condition.unsignZeros := by
  simp only [equals, Bool.and_eq_true, beq_iff_eq] at h
  have hconditions : c.conditions.map Condition.unsignZeros
      = d.conditions.map Condition.unsignZeros :=
    map_eq_map_of_zip_all (fun x y hxy => Condition.unsignZeros_eq_of_equals hxy) h.1 h.2
  exact congrArg Clause.mk hconditions

namespace Domain

theorem unsignZeros_eq_of_equals {d e : Domain} (h : d.equals e = true) :
    d.unsignZeros = e.unsignZeros := by
  simp only [equals, Bool.and_eq_true, beq_iff_eq] at h
  have hclauses : d.clauses.map (·.mapConditions Condition.unsignZeros)
      = e.clauses.map (·.mapConditions Condition.unsignZeros) :=
    map_eq_map_of_zip_all (fun x y hxy => Clause.unsignZeros_eq_of_equals hxy) h.1 h.2
  exact congrArg Domain.mk hclauses

/-- Domains and contexts that are the same up to the signs of zeros have the same verdicts. -/
theorem verdicts_of_unsignZeros_eq {d e : Domain} {ctx other : Context}
    (hdomain : d.unsignZeros = e.unsignZeros) (hcontext : ctx.unsignZeros = other.unsignZeros) :
    d.evaluate ctx = e.evaluate other ∧ d.test = e.test
      ∧ (d.parse ctx >>= evaluate ctx) = (e.parse other >>= evaluate other) := by
  refine ⟨?_, ?_, ?_⟩
  · rw [← evaluate_unsignZeros ctx, hdomain, hcontext, evaluate_unsignZeros]
  · rw [← test_unsignZeros d, hdomain, test_unsignZeros]
  · rw [← parse_evaluate_unsignZeros ctx, hdomain, hcontext, parse_evaluate_unsignZeros]

end Domain

/-- **`equal_inputs_same_verdicts`** — equality of values is symmetric and transitive. Equal domains,
in contexts with equal records and the same clock, have the same verdict evaluated, tested, and
evaluated after they are parsed; where a date leaves the calendar, the same error. Values that differ
in the signs of zeros alone, at any depth and beside any other numbers, are the same to every
operator. -/
theorem equal_inputs_same_verdicts :
    (∀ a b : Value, a.equals b = true → b.equals a = true)
      ∧ (∀ a b c : Value, a.equals b = true → b.equals c = true → a.equals c = true)
      ∧ (∀ (d e : Domain) (ctx other : Context), d.equals e = true →
          ctx.toRecords.equals other.toRecords = true → ctx.now = other.now →
          ctx.zone = other.zone →
          d.evaluate ctx = e.evaluate other ∧ d.test = e.test
            ∧ (d.parse ctx >>= Domain.evaluate ctx) = (e.parse other >>= Domain.evaluate other))
      ∧ ∀ (operator : Operator) (operand operand' value value' : Value),
          operand.unsignZeros = operand'.unsignZeros → value.unsignZeros = value'.unsignZeros →
          Verdict.ofOperator operator operand value
            = Verdict.ofOperator operator operand' value' := by
  refine ⟨fun _ _ => Value.equals_symm, fun _ _ _ => Value.equals_trans, ?_, ?_⟩
  · intro d e ctx other hdomain hrecords hnow hzone
    apply Domain.verdicts_of_unsignZeros_eq (Domain.unsignZeros_eq_of_equals hdomain)
    rw [Context.unsignZeros, Context.unsignZeros, Records.unsignZeros_eq_of_equals hrecords, hnow,
      hzone]
  · intro operator operand operand' value value' hoperand hvalue
    rw [← Verdict.ofOperator_unsignZeros operator operand, hoperand, hvalue,
      Verdict.ofOperator_unsignZeros]

/-- The user's level is among the levels of the object, and a list of a zero among such lists. -/
def levelsWith (zero : Binary64) : Domain :=
  ⟨[⟨[⟨.string "levels", .contains, .string "user.level"⟩,
      ⟨.array [.number zero], .isIn, .array [.array [.number zero]]⟩]⟩]⟩

/-- Levels that start at zero, and a user of that level. -/
def leveledWith (zero : Binary64) : Context :=
  Records.atYearZero
    { object := [("levels", .array [.number zero, .null])], user := [("level", .number zero)] }

/-- The zero with a sign. -/
def negativeZero : Binary64 := .signed true Binary64.zeroMagnitude

/-- One zero in the domain and the other in the records, or the other way round, and beside a
not-a-number. -/
theorem same_verdicts_of_either_zero :
    (Value.number negativeZero).equals (.number .zero) = true
      ∧ (Value.number negativeZero).equals (.number negativeZero) = true
      ∧ (levelsWith .zero).equals (levelsWith negativeZero) = true
      ∧ (leveledWith negativeZero).toRecords.equals (leveledWith .zero).toRecords = true
      ∧ (levelsWith .zero).evaluate (leveledWith negativeZero) = .ok true
      ∧ (levelsWith negativeZero).evaluate (leveledWith .zero) = .ok true
      ∧ (levelsWith .zero).test = (levelsWith negativeZero).test
      ∧ ((levelsWith .zero).parse (leveledWith negativeZero)
            >>= Domain.evaluate (leveledWith negativeZero)) = .ok true
      ∧ (Value.array [.number .nan]).equals (.array [.number .nan]) = false
      ∧ Verdict.ofOperator .like (.array [.number .nan, .number .zero]) (.string "%0")
        = Verdict.ofOperator .like (.array [.number .nan, .number negativeZero])
            (.string "%0") := by
  obtain ⟨hsymm, htrans, hinputs, hoperators⟩ := equal_inputs_same_verdicts
  have hzeros : (Value.number .zero).equals (.number negativeZero) = true := by decide +kernel
  have hdomains : (levelsWith .zero).equals (levelsWith negativeZero) = true := by decide +kernel
  have hrecords :
      (leveledWith negativeZero).toRecords.equals (leveledWith .zero).toRecords = true := by
    decide +kernel
  have hholds : (levelsWith negativeZero).evaluate (leveledWith .zero) = .ok true := rfl
  have hparsed : ((levelsWith negativeZero).parse (leveledWith .zero)
      >>= Domain.evaluate (leveledWith .zero)) = .ok true := rfl
  have hback : (Value.number negativeZero).equals (.number .zero) = true := hsymm _ _ hzeros
  obtain ⟨hevaluate, htest, hparse⟩ := hinputs _ _ _ _ hdomains hrecords rfl rfl
  refine ⟨hback, htrans _ _ _ hback hzeros, hdomains, hrecords, hevaluate.trans hholds,
    hholds, htest, hparse.trans hparsed, rfl, ?_⟩
  have hbeside : (Value.array [.number .nan, .number .zero]).unsignZeros
      = (Value.array [.number .nan, .number negativeZero]).unsignZeros := rfl
  exact hoperators .like _ _ _ _ hbeside rfl

end DomainFilter
