import Pushdown.Plan
import Pushdown.Rows.Filter

/-!
# Answers

The answer to a selection is a list of column names and a list of rows. In the answers that plans
give, every row carries exactly these columns, in this order; `RowSet.Uniform` says so.

An answer is the work of the local part of a plan. The rows that come back from a remote side are
finished in four steps: the conditions left over are checked, the rows are sorted, the window is
cut, and the columns asked for are taken. All conditions are compiled before the first row is looked
at, so that a fault in one of them is reported even if there are no rows.
-/

namespace Pushdown

/-- **Columns and rows.** -/
structure RowSet where
  /-- The names of the columns. -/
  columns : List String
  /-- The rows. -/
  rows : List Record

namespace RowSet

/-- Every row carries exactly the columns, in their order. -/
def Uniform (t : RowSet) : Prop := ∀ row ∈ t.rows, Record.keys row = t.columns

/-- The number of rows. -/
def size (t : RowSet) : Nat := t.rows.length

/-- The cells of a column from top to bottom; where a row has none there is a null. -/
def columnValues (t : RowSet) (name : String) : List Json :=
  t.rows.map fun row => (Record.get? row name).getD .null

end RowSet

/-! ### The local part of a plan -/

/-- **The columns asked for, of one row.** A missing cell is null. -/
def projectRow (output : List ProjectedColumn) (row : Record) : Record :=
  Record.ofList (output.map fun c => (c.outputName, (lookup row c.path).getD .null))

/-- A window of a list. -/
def cutWindow {α : Type} (offset limit : Option Nat) (items : List α) : List α :=
  let rest := items.drop (offset.getD 0)
  match limit with
  | some n => rest.take n
  | none => rest

/-- Rows in the order of a plan, if it has one. -/
def sortLocally (schema : Schema) (keys : List OrderKey) (rows : List Record) : List Record :=
  if keys.isEmpty then rows else sortBy (typedKeys schema keys) rows

/-- **The local part of a plan**, on the rows that came back. -/
def Plan.complete (p : Plan) (schema : Schema) (rows : List Record) : Except QueryError RowSet := do
  -- faults in conditions come before any row is looked at
  let filters ← compileAll schema p.residual
  let kept := rows.filter (meetsAll filters)
  let sorted := sortLocally schema p.localSort kept
  let window := cutWindow p.localOffset p.localLimit sorted
  return ⟨p.outputNames, window.map (projectRow p.output)⟩

end Pushdown
