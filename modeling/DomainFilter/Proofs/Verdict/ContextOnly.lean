/-
# DomainFilter.Proofs.Verdict.ContextOnly — verdicts that need no record

Whether something is shown at all may depend on the user, the environment and the clock and on no
record. Such a domain can be asked in three ways: tested after it is parsed, tested after it is
resolved, or evaluated after it is resolved, of a record without fields.

* §A On a record without fields operands stand for themselves.
* §B A condition whose reference resolves says the same parsed and resolved.
* §C **`context_only_verdicts_agree`** — the three ways agree where all references resolve, and
  without references a domain needs no context either.

BOUNDARY: a reference to nothing is a text to the parsed domain, which compares it, and no value to
the resolved one, which passes over it.
-/
import DomainFilter.Proofs.Domain.Substitution

namespace DomainFilter

/-! ## §A A record without fields -/

theorem Record.operand_nil : Record.operand [] = id := by
  funext value
  cases value <;> rfl

theorem ResolvedDomain.evaluate_nil (d : ResolvedDomain) : d.evaluate [] = d.test := by
  rw [evaluate, Record.operand_nil, test]

/-! ## §B Conditions -/

namespace Condition

variable {ctx : Context} {c : Condition}

/-- Only a reference to nothing is left without a value. -/
theorem resolved_of_resolves (h : (Symbol.ofValue c.value).resolve ctx ≠ .unresolved) :
    c.resolved ctx = ⟨c.operand, c.operator, some (c.substitute ctx).value⟩ := by
  unfold resolved substitute
  cases hresolution : (Symbol.ofValue c.value).resolve ctx with
  | literal => rfl
  | resolved value => rfl
  | unresolved => exact absurd hresolution h

theorem verdict_resolved (h : (Symbol.ofValue c.value).resolve ctx ≠ .unresolved) :
    (c.resolved ctx).verdict id = (c.substitute ctx).verdict := by
  rw [resolved_of_resolves h, verdict, substitute_eq]
  rfl

/-- Without a reference and without a record a condition says what it says as it stands. -/
theorem verdictIn_of_no_record (hvalue : Symbol.ofValue c.value = .literal)
    (hrecord : ctx.object = []) : c.verdictIn ctx = c.verdict := by
  rw [verdictIn_of_literal hvalue, hrecord, Record.operand_nil]
  rfl

end Condition

/-! ## §C Domains -/

namespace Domain

theorem test_resolved {ctx : Context} {d : Domain}
    (h : ∀ c ∈ d.conditions, (Symbol.ofValue c.value).resolve ctx ≠ .unresolved) :
    (d.resolved ctx).test = (d.substitute ctx).test := by
  have hsaying : d.holdsBy (fun c => (c.resolved ctx).verdict id)
      = d.holdsBy (Condition.verdict ∘ Condition.substitute ctx) :=
    holdsBy_congr fun c hc => Condition.verdict_resolved (h c hc)
  rw [ResolvedDomain.test, holdsWith_resolved, hsaying, test_eq_holdsBy,
    substitute_eq_mapConditions, holdsBy_mapConditions]

theorem datesInCalendar_of_literals {ctx : Context} {d : Domain}
    (h : ∀ c ∈ d.conditions, Symbol.ofValue c.value = .literal) : d.DatesInCalendar ctx := by
  intro c hc
  rw [h c hc]
  rfl

theorem evaluate_of_literals {ctx : Context} {d : Domain}
    (h : ∀ c ∈ d.conditions, Symbol.ofValue c.value = .literal) (hrecord : ctx.object = []) :
    d.evaluate ctx = .ok d.test := by
  rw [evaluate_of_datesInCalendar (datesInCalendar_of_literals h), test_eq_holdsBy]
  exact congrArg Except.ok
    (holdsBy_congr fun c hc => Condition.verdictIn_of_no_record (h c hc) hrecord)

/-- **`context_only_verdicts_agree`** — where every reference of a domain resolves, the parsed domain
tested, the resolved one tested and the resolved one evaluated of a record without fields have the
same verdict, also where references led to other references; there is one unless a date leaves the
calendar. A domain without references, evaluated without records at any time, says what it says when
it is tested. -/
theorem context_only_verdicts_agree (ctx : Context) (d : Domain) :
    ((∀ c ∈ d.conditions, (Symbol.ofValue c.value).resolve ctx ≠ .unresolved) →
        (d.resolve ctx).map ResolvedDomain.test = (d.parse ctx).map test
          ∧ (d.resolve ctx).map (ResolvedDomain.evaluate []) = (d.parse ctx).map test
          ∧ (d.DatesInCalendar ctx → ∃ verdict, (d.parse ctx).map test = .ok verdict))
      ∧ ((∀ c ∈ d.conditions, Symbol.ofValue c.value = .literal) →
        ∀ now zone, d.evaluate { now, zone } = .ok d.test) := by
  constructor
  · intro hresolves
    have htest : (d.resolve ctx).map ResolvedDomain.test = (d.parse ctx).map test := by
      rw [resolve, map_unlessCalendarError, parse, map_unlessCalendarError,
        test_resolved hresolves]
    have hevaluate : ResolvedDomain.evaluate [] = ResolvedDomain.test :=
      funext ResolvedDomain.evaluate_nil
    refine ⟨htest, ?_, ?_⟩
    · rw [hevaluate]
      exact htest
    · intro hdates
      rw [parse_of_datesInCalendar hdates]
      exact ⟨_, rfl⟩
  · intro hliterals now zone
    exact evaluate_of_literals hliterals rfl

/-- Shown in a portal to whoever has the role that is named like a field of the environment. -/
def portalOnly : Domain :=
  ⟨[⟨[⟨.bool true, .eq, .string "env.portal"⟩,
      ⟨.string "env.role", .eq, .string "user.role"⟩]⟩]⟩

/-- A user of a portal with that role. -/
def portalUser : Context :=
  Records.atYearZero
    { user := [("role", .string "env.role")], env := [("portal", .bool true)] }

/-- Shown always: the text matches the pattern. -/
def matching : Domain := ⟨[⟨[⟨.string "draft", .like, .string "dr%"⟩]⟩]⟩

/-- The role resolves to a text that looks like a reference to nothing, and is compared as a text. -/
theorem context_only_verdicts_agree_of_portalUser :
    (∀ c ∈ portalOnly.conditions, (Symbol.ofValue c.value).resolve portalUser ≠ .unresolved)
      ∧ (portalOnly.resolve portalUser).map ResolvedDomain.test = .ok true
      ∧ (portalOnly.resolve portalUser).map (ResolvedDomain.evaluate []) = .ok true
      ∧ (∀ c ∈ matching.conditions, Symbol.ofValue c.value = .literal)
      ∧ ∀ now zone, matching.evaluate { now, zone } = .ok true := by
  have hresolves : ∀ c ∈ portalOnly.conditions,
      (Symbol.ofValue c.value).resolve portalUser ≠ .unresolved := by
    intro c hc hunresolved
    rcases List.mem_cons.mp hc with rfl | hc
    · cases hunresolved
    · rw [List.mem_singleton.mp hc] at hunresolved
      cases hunresolved
  have hliterals : ∀ c ∈ matching.conditions, Symbol.ofValue c.value = .literal := by
    intro c hc
    rw [List.mem_singleton.mp hc]
    rfl
  obtain ⟨htest, hevaluate, -⟩ :=
    (context_only_verdicts_agree portalUser portalOnly).1 hresolves
  have hmatching := (context_only_verdicts_agree portalUser matching).2 hliterals
  have hparsed : (portalOnly.parse portalUser).map test = .ok true := rfl
  exact ⟨hresolves, htest.trans hparsed, hevaluate.trans hparsed, hliterals, hmatching⟩

/-- Without the user the role is a text for the parsed domain, and the resolved one passes over it. -/
example :
    (portalOnly.substitute { portalUser with user := [] }).test = false
      ∧ (portalOnly.resolved { portalUser with user := [] }).test = true :=
  ⟨rfl, by decide +kernel⟩

end Domain

end DomainFilter
