/-!
# Operators of conditions

The ten operators that a condition can carry, each with its sign. Four of them have a direction:
when the operands of `5 > price` change places, the operator has to turn round with them. Turning
round twice is turning back.
-/

namespace Pushdown

/-- **The operator of a condition.** -/
inductive Operator where
  /-- Equality. -/
  | eq
  /-- Inequality. -/
  | notEq
  /-- Less. -/
  | lt
  /-- Less or equal. -/
  | le
  /-- Greater. -/
  | gt
  /-- Greater or equal. -/
  | ge
  /-- Equality with one of several values. -/
  | isIn
  /-- Inequality with every one of several values. -/
  | notIn
  /-- Match with a pattern. -/
  | like
  /-- No match with a pattern. -/
  | notLike
  deriving DecidableEq, Repr

namespace Operator

/-- All operators: the comparisons, then membership, then patterns. -/
def all : List Operator := [eq, notEq, lt, le, gt, ge, isIn, notIn, like, notLike]

/-- The sign of an operator. -/
def sign : Operator → String
  | eq => "="
  | notEq => "!="
  | lt => "<"
  | le => "<="
  | gt => ">"
  | ge => ">="
  | isIn => "IN"
  | notIn => "NOT IN"
  | like => "LIKE"
  | notLike => "NOT LIKE"

/-- The operator with a sign. -/
def ofSign? (s : String) : Option Operator := all.find? fun op => op.sign == s

/-- **The operator after its operands changed places.** -/
def swapped : Operator → Operator
  | lt => gt
  | le => ge
  | gt => lt
  | ge => le
  | op => op

@[simp] theorem swapped_swapped (op : Operator) : op.swapped.swapped = op := by
  cases op <;> rfl

theorem mem_all (op : Operator) : op ∈ all := by
  cases op <;> decide

/-- Every operator is found by its sign. -/
theorem ofSign?_sign (op : Operator) : ofSign? op.sign = some op := by
  cases op <;> decide

end Operator

end Pushdown
