/-
# DomainFilter.Verdict — what a condition, a clause and a domain say

A condition says true, false or nothing. It says nothing where its operator has no answer for its
two sides, and then it takes no part in its clause.

§A The comparison behind `==`, `!=`, `<=` and `>=`: as numbers if the operand is a number and the
value says one, otherwise as texts. §B The operators. §C Clauses and domains.
-/
import DomainFilter.Operator
import DomainFilter.Value.Text
import DomainFilter.Value.Coercion
import DomainFilter.Text.Lowercase
import DomainFilter.Text.Order
import DomainFilter.Text.Wildcard

namespace DomainFilter

namespace Verdict

/-! ## §A Comparison -/

/-- The order of an operand and a value; none only if one of them is not-a-number and both count as
numbers. -/
def compare? (operand value : Value) : Option Ordering :=
  match operand, value.numeric? with
  | .number x, some y => x.compare? y
  | _, _ => some (Text.order operand.text value.text)

/-- The number that `<` and `>` compare with: what says no number counts as zero. -/
def bound (value : Value) : Binary64 :=
  if value.toNumber.isNaN then .zero else value.toNumber

/-! ## §B Operators -/

/-- The values that ask `is` for truth. -/
def asksTruth : Value → Bool
  | .bool b => b
  | .string s => s == "true"
  | _ => false

/-- The values that ask `is` for emptiness. -/
def asksEmptiness : Value → Bool
  | .null => true
  | .bool b => !b
  | .string s => s == "false" || s == "null" || s == "empty"
  | _ => false

/-- The answer of `is`: whether the operand is true, whether it is empty, or nothing. -/
def isCheck (operand value : Value) : Option Bool :=
  if asksTruth value then some operand.isTruthy
  else if asksEmptiness value then some operand.isEmptyLike
  else none

/-- The members of an array; anything else is its own only member. -/
def asList : Value → List Value
  | .array items => items
  | value => [value]

/-- Whether the text of the operand matches the text of the value as a pattern. -/
def isLike (operand value : Value) : Bool := Text.likeMatch operand.text value.text

/-- The same with both texts in lower case. -/
def isLikeIgnoringCase (operand value : Value) : Bool :=
  Text.likeMatch (Text.lower operand.text) (Text.lower value.text)

/-- What an operator in canonical form says of an operand and a value; an unsupported one says
false. -/
def ofCanonical (operator : Operator) (operand value : Value) : Option Bool :=
  match operator with
  | .eq | .eqEq => some (compare? operand value == some .eq)
  | .ne | .ltGt => some (compare? operand value != some .eq)
  | .gt => some ((bound value).less operand.toNumber)
  | .lt => some (operand.toNumber.less (bound value))
  | .le => some (compare? operand value == some .lt || compare? operand value == some .eq)
  | .ge => some (compare? operand value == some .gt || compare? operand value == some .eq)
  | .like => some (isLike operand value)
  | .ilike => some (isLikeIgnoringCase operand value)
  | .is => isCheck operand value
  | .isNot => (isCheck operand value).map (!·)
  | .isIn => some (operand.memberOf (asList value))
  | .notIn => some (!operand.memberOf (asList value))
  | .contains => operand.items?.map value.memberOf
  | .unsupported _ => some false

/-- What an operator says of an operand and a value. -/
def ofOperator (operator : Operator) (operand value : Value) : Option Bool :=
  ofCanonical (operator.canonical operand.isNumber) operand value

/-! ## §C Clauses and domains -/

/-- A clause holds if none of its conditions says false. -/
def ofConditions (verdicts : List (Option Bool)) : Bool := verdicts.all (· != some false)

/-- A domain holds if one of its clauses does, or if it has none. -/
def ofClauses (verdicts : List Bool) : Bool := verdicts.isEmpty || verdicts.any id

end Verdict

end DomainFilter
