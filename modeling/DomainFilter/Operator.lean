/-
# DomainFilter.Operator — the operators of conditions

Fifteen tokens are supported; any other token is kept as it is, so that a condition writes back what
it was read from, and counts against it only when it is evaluated. The two spellings of equality and
the two of inequality stay apart for the same reason; evaluation sees `Operator.canonical`.
-/

namespace DomainFilter

/-- An operator. -/
inductive Operator where
  /-- Equal, spelt `=`. -/
  | eq
  /-- Equal, spelt `==`. -/
  | eqEq
  /-- Not equal, spelt `!=`. -/
  | ne
  /-- Not equal, spelt `<>`. -/
  | ltGt
  /-- Greater than. -/
  | gt
  /-- Less than. -/
  | lt
  /-- Less than or equal. -/
  | le
  /-- Greater than or equal. -/
  | ge
  /-- Matches a pattern. -/
  | like
  /-- Matches a pattern, letter case aside. -/
  | ilike
  /-- Is true, or is empty. -/
  | is
  /-- Is not true, or is not empty. -/
  | isNot
  /-- Is a member of a list. -/
  | isIn
  /-- Is no member of a list. -/
  | notIn
  /-- Has a member. -/
  | contains
  /-- A token outside the supported set. -/
  | unsupported (token : String)
  deriving DecidableEq, Inhabited

namespace Operator

/-- The operator that a token names. -/
def ofToken : String → Operator
  | "=" => .eq
  | "==" => .eqEq
  | "!=" => .ne
  | "<>" => .ltGt
  | ">" => .gt
  | "<" => .lt
  | "<=" => .le
  | ">=" => .ge
  | "like" => .like
  | "ilike" => .ilike
  | "is" => .is
  | "is not" => .isNot
  | "in" => .isIn
  | "not in" => .notIn
  | "contains" => .contains
  | token => .unsupported token

/-- The token of an operator. -/
def token : Operator → String
  | .eq => "="
  | .eqEq => "=="
  | .ne => "!="
  | .ltGt => "<>"
  | .gt => ">"
  | .lt => "<"
  | .le => "<="
  | .ge => ">="
  | .like => "like"
  | .ilike => "ilike"
  | .is => "is"
  | .isNot => "is not"
  | .isIn => "in"
  | .notIn => "not in"
  | .contains => "contains"
  | .unsupported token => token

/-- The supported tokens. -/
def tokens : List String :=
  ["=", "==", "!=", "<>", ">", "<", "<=", ">=", "like", "ilike", "is", "is not", "in", "not in",
   "contains"]

/-- Whether a token is supported. -/
def isKnown (token : String) : Bool := tokens.contains token

/-- The operator that evaluation applies: one spelling for equality and one for inequality, and for
a numeric operand `is` and `is not` are equality and inequality too. -/
def canonical (numericOperand : Bool) : Operator → Operator
  | .eq => .eqEq
  | .ltGt => .ne
  | .is => if numericOperand then .eqEq else .is
  | .isNot => if numericOperand then .ne else .isNot
  | op => op

/-- Reading a token and writing it gives the token back. -/
theorem token_ofToken (t : String) : (ofToken t).token = t := by
  unfold ofToken
  split <;> rfl

/-- A token outside the set is kept as it is. -/
theorem ofToken_of_not_isKnown {t : String} (h : isKnown t = false) :
    ofToken t = .unsupported t := by
  unfold ofToken
  split
  case h_16 => rfl
  all_goals exact absurd h (by decide)

/-- A known token names a supported operator. -/
theorem ofToken_ne_unsupported {t : String} (h : isKnown t = true) (u : String) :
    ofToken t ≠ .unsupported u := by
  simp only [isKnown, tokens, List.contains_eq_mem, List.mem_cons, List.not_mem_nil, or_false,
    decide_eq_true_eq] at h
  rcases h with h | h | h | h | h | h | h | h | h | h | h | h | h | h | h <;>
    subst h <;> simp [ofToken]

end Operator

end DomainFilter
