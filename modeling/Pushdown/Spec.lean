import Pushdown.Condition
import Pushdown.Statement

/-!
# What a selection asks for

A **spec** is a selection taken down to names: the table, the columns to return with the names they
are returned under, the conditions, the order and the window. It is what a table answers, and the
engine can be asked by a spec without any statement.

Two columns that would be returned under one name are one column: the first of them counts.
-/

namespace Pushdown

/-! ### Parts of a spec -/

/-- **A column to return**, and the name to return it under if that is another. -/
structure ProjectedColumn where
  /-- The path of the column. -/
  path : String
  /-- The other name. -/
  alias? : Option String
  deriving DecidableEq, Repr

/-- A column under its own name. -/
def ProjectedColumn.plain (path : String) : ProjectedColumn := ⟨path, none⟩

/-- The name that a column is returned under. -/
def ProjectedColumn.outputName (c : ProjectedColumn) : String := c.alias?.getD c.path

/-- The columns to return. -/
inductive Projection where
  /-- All columns that the table returns. -/
  | all
  /-- These columns, in this order. -/
  | columns (columns : List ProjectedColumn)
  deriving DecidableEq, Repr

/-- The direction of an order. -/
inductive Direction where
  /-- Smaller values first. -/
  | ascending
  /-- Greater values first. -/
  | descending
  deriving DecidableEq, Repr

/-- **One key of an order.** -/
structure OrderKey where
  /-- The path of the column. -/
  column : String
  /-- The direction. -/
  direction : Direction
  deriving DecidableEq, Repr

/-- **What a selection asks for.** -/
structure Spec where
  /-- The table. -/
  table : Option String
  /-- The columns to return. -/
  projection : Projection
  /-- The conditions that every row meets. -/
  conditions : Conditions
  /-- The keys of the order, the most important first. -/
  orderBy : List OrderKey
  /-- How many rows to return. -/
  limit : Option Nat
  /-- How many rows to skip. -/
  offset : Option Nat

/-- The spec that asks for everything. -/
def Spec.everything : Spec := ⟨none, .all, [], [], none, none⟩

/-! ### From a selection -/

/-- **The columns asked for, one after another.** A column whose output name is taken is dropped. -/
def targetColumns (found : List ProjectedColumn) :
    List SelectTarget → Except QueryError (List ProjectedColumn)
  | [] => .ok found
  | .wildcard :: rest => targetColumns found rest
  | .expr (.column path) alias? :: rest =>
    let c : ProjectedColumn := ⟨path, alias?⟩
    targetColumns
      (if found.any (·.outputName == c.outputName) then found else found ++ [c]) rest
  | .expr e _ :: _ => .error (.invalid ("unsupported query target: " ++ e.describe))

/-- A target asks for all columns. -/
def SelectTarget.isWildcard : SelectTarget → Bool
  | .wildcard => true
  | .expr _ _ => false

/-- **The projection of a selection.** One wildcard among the targets asks for all columns. -/
def Projection.ofTargets (targets : List SelectTarget) : Except QueryError Projection := do
  let columns ← targetColumns [] targets
  return if targets.any SelectTarget.isWildcard || columns.isEmpty then .all else .columns columns

/-- A key of an order, which has to be a column. -/
def OrderKey.ofSortItem (item : SortItem) : Except QueryError OrderKey :=
  match item.expr with
  | .column path => .ok ⟨path, if item.ascending then .ascending else .descending⟩
  | e => .error (.invalid ("unsupported ORDER BY target: " ++ e.describe))

/-- **The spec of a selection.** -/
def Spec.ofSelect (s : SelectStatement) : Except QueryError Spec := do
  let conditions ← conditionsOf? s.selection
  let projection ← Projection.ofTargets s.targets
  let orderBy ← s.orderBy.mapM OrderKey.ofSortItem
  return ⟨s.source.map (·.name), projection, conditions, orderBy, s.limit, s.offset⟩

/-- The spec of a selection, from its text. -/
def Spec.read (text : String) : Except QueryError Spec := do
  Spec.ofSelect (← SelectStatement.read text)

end Pushdown
