import Pushdown.Error
import Pushdown.Expression
import Pushdown.Text.Blank

/-!
# Conditions

A filter that the engine can act on is a list of **conditions**, all of which have to hold: each
compares one column with one value, or with the values of a list. `conditionsOf` flattens the tree
of a filter into such a list, left to right. A comparison with the value on the left is turned
round, so every condition has its column first. Whatever is no conjunction of such comparisons is
refused, by a message that names the offending part.
-/

namespace Pushdown

/-! ### Conditions -/

/-- **What a column is compared with.** -/
inductive Operand where
  /-- One value. -/
  | scalar (value : Json)
  /-- Several values. -/
  | list (values : List Json)
  deriving DecidableEq

/-- The one value of an operand. -/
def Operand.scalar? : Operand → Option Json
  | .scalar v => some v
  | .list _ => none

/-- All values of an operand. -/
def Operand.values : Operand → List Json
  | .scalar v => [v]
  | .list vs => vs

/-- The text of an operand: a list stands in parentheses. -/
def Operand.text : Operand → String
  | .scalar v => v.text
  | .list vs => "(" ++ ", ".intercalate (vs.map Json.text) ++ ")"

/-- **A condition**: a column, by its dotted path, an operator and an operand. -/
structure Condition where
  /-- The operator. -/
  op : Operator
  /-- The column. -/
  column : String
  /-- The operand. -/
  operand : Operand
  deriving DecidableEq

namespace Condition

/-- The text of a condition. -/
def text (c : Condition) : String := c.column ++ " " ++ c.op.sign ++ " " ++ c.operand.text

/-- The path of the condition's column below a name: what follows the name and a point. -/
def fieldUnder (c : Condition) (name : String) : Option String :=
  match Text.dropLeading name.toList c.column.toList with
  | some ('.' :: rest) => some (String.ofList rest)
  | _ => none

end Condition

/-- Conditions that have to hold together. -/
abbrev Conditions := List Condition

namespace Conditions

/-- The conditions on a column. -/
def onColumn (cs : Conditions) (column : String) : Conditions := cs.filter (·.column == column)

/-- Some condition is on the column. -/
def mentions (cs : Conditions) (column : String) : Bool := cs.any (·.column == column)

/-- The value that the first equality on a column asks for. -/
def equality (cs : Conditions) (column : String) : Option Json :=
  ((cs.onColumn column).find? (·.op == .eq)).bind (·.operand.scalar?)

theorem mentions_iff {cs : Conditions} {column : String} :
    cs.mentions column = true ↔ ∃ c ∈ cs, c.column = column := by
  simp [mentions]

/-- A column is mentioned exactly when there is a condition on it. -/
theorem mentions_eq_false_iff {cs : Conditions} {column : String} :
    cs.mentions column = false ↔ cs.onColumn column = [] := by
  simp [mentions, onColumn]

end Conditions

/-! ### From the tree of a filter -/

/-- The operator of a condition for an operator that compares. -/
def Operator.ofComparison? : Sql.BinaryOp → Option Operator
  | .eq => some .eq
  | .notEq => some .notEq
  | .lt => some .lt
  | .le => some .le
  | .gt => some .gt
  | .ge => some .ge
  | .and => none
  | .or => none

/-- The refusal of an expression that cannot stand in a filter. -/
def unsupportedInFilter (e : Expression) : QueryError :=
  .unsupportedFilter (e.describe ++ " in WHERE clause")

/-- **One comparison as a condition.** A comparison between two parts neither of which is a column
is refused by the part that could have been the column. -/
def comparisonOf (op : Operator) (left right : Expression) (whole : Expression) :
    Except QueryError Condition :=
  match left, right with
  | .column c, .literal v => .ok ⟨op, c, .scalar v⟩
  | .literal v, .column c => .ok ⟨op.swapped, c, .scalar v⟩
  | .column _, other => .error (unsupportedInFilter other)
  | other, .column _ => .error (unsupportedInFilter other)
  | other, .literal _ => .error (unsupportedInFilter other)
  | .literal _, other => .error (unsupportedInFilter other)
  | _, _ => .error (unsupportedInFilter whole)

/-- The value of an item of a list. -/
def listValue : Expression → Except QueryError Json
  | .literal v => .ok v
  | other => .error (unsupportedInFilter other)

/-- Membership in a list as a condition. -/
def membershipOf (operand : Expression) (items : List Expression) (negated : Bool) :
    Except QueryError Condition :=
  match operand with
  | .column c =>
    (items.mapM listValue).map fun values => ⟨if negated then .notIn else .isIn, c, .list values⟩
  | other => .error (unsupportedInFilter other)

/-- A pattern match as a condition. -/
def matchOf (operand pattern : Expression) (negated : Bool) : Except QueryError Condition :=
  match operand, pattern with
  | .column c, .literal (.string p) =>
    .ok ⟨if negated then .notLike else .like, c, .scalar (.string p)⟩
  | .column _, other => .error (unsupportedInFilter other)
  | other, _ => .error (unsupportedInFilter other)

/-- **The conditions of a filter**, left to right. -/
def conditionsOf : Expression → Except QueryError Conditions
  | .binary l .and r => do
    let cs ← conditionsOf l
    let ds ← conditionsOf r
    return cs ++ ds
  | .binary _ .or _ =>
    .error (.unsupportedFilter "OR is not supported, only AND-combined comparisons")
  | .binary l op r =>
    match Operator.ofComparison? op with
    | some c => (comparisonOf c l r (.binary l op r)).map fun c => [c]
    | none => .error (unsupportedInFilter (.binary l op r))
  | .inList e items negated => (membershipOf e items negated).map fun c => [c]
  | .like e pattern negated => (matchOf e pattern negated).map fun c => [c]
  | other => .error (unsupportedInFilter other)

/-- The conditions of an optional filter; no filter has none. -/
def conditionsOf? : Option Expression → Except QueryError Conditions
  | none => .ok []
  | some e => conditionsOf e

end Pushdown
