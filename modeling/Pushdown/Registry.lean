import Pushdown.Statement
import Pushdown.Tables.Table

/-!
# Carrying out statements

A registry knows tables by their names, the case of ASCII letters aside; a table registered under a
name that is taken replaces the other. `execute` reads a statement, finds its table, and hands over
the work: a spec, records, assignments or conditions. What is handed over has been checked as far as
it can be without the table: the columns written to are columns of rows, and the values are
literals.
-/

namespace Pushdown

/-! ### Registries -/

/-- **Tables by name.** Each name, in lower case, stands once. -/
abbrev Registry (σ : Type) := List (String × Table σ)

namespace Registry

variable {σ : Type}

/-- The name under which a table is known. -/
def keyOf (name : String) : String := name.toLower

/-- Registers a table in the place of the one that had its name. -/
def register (r : Registry σ) (t : Table σ) : Registry σ :=
  r.filter (·.1 != keyOf t.name) ++ [(keyOf t.name, t)]

/-- The table of a name. -/
def find? (r : Registry σ) (name : String) : Option (Table σ) :=
  (List.find? (fun e => e.1 == keyOf name) r).map (·.2)

/-- The names of all tables, in order. -/
def names (r : Registry σ) : List String := (r.map (·.1)).mergeSort fun a b => !decide (b < a)

end Registry

/-! ### What is handed over -/

/-- **What a statement comes to.** -/
inductive Outcome where
  /-- Rows. -/
  | rows (answer : RowSet)
  /-- A number of rows inserted, changed or removed. -/
  | affected (count : Nat)

/-- A column that a statement writes to has to be a column of rows. -/
def requireWritable (schema : Schema) (place : ColumnUse) (column : String) :
    Except QueryError Unit :=
  if schema.isOutput column then .ok () else .error (.unknownColumn column place)

/-- The value for a column, which has to be a literal. -/
def literalFor (column : String) : Expression → Except QueryError Json
  | .literal v => .ok v
  | e => .error (.invalid ("value for '" ++ column ++ "' must be a literal, got " ++ e.describe))

/-- The entry for a column and an expression. -/
def entryFor (pair : String × Expression) : Except QueryError (String × Json) :=
  (literalFor pair.1 pair.2).map fun v => (pair.1, v)

/-- **The record of a row to insert**: its values under the columns named. -/
def insertRecord (columns : List String) (row : List Expression) : Except QueryError Record :=
  ((columns.zip row).mapM entryFor).map Record.ofList

/-- **The records of an insertion.** -/
def insertRecords (schema : Schema) (i : InsertStatement) : Except QueryError (List Record) := do
  -- all columns are checked before the first value is looked at
  i.columns.forM (requireWritable schema .insert)
  i.rows.mapM (insertRecord i.columns)

/-- One assignment, checked. -/
def assignmentEntry (schema : Schema) (pair : String × Expression) :
    Except QueryError (String × Json) := do
  requireWritable schema .update pair.1
  entryFor pair

/-- **The assignments and conditions of a change.** -/
def updateParts (schema : Schema) (u : UpdateStatement) :
    Except QueryError (Record × Conditions) := do
  let entries ← u.assignments.mapM (assignmentEntry schema)
  let conditions ← conditionsOf? u.selection
  return (Record.ofList entries, conditions)

/-! ### Dispatch -/

/-- **A statement carried out by its table.** -/
def Table.execute {σ : Type} (t : Table σ) : Statement → Action σ Outcome
  | .select s => do
    let spec ← (Spec.ofSelect s : Except QueryError Spec)
    return .rows (← t.select spec)
  | .insert i => do
    let records ← (insertRecords t.schema i : Except QueryError (List Record))
    return .affected (← t.insert records)
  | .update u => do
    let (assignments, conditions) ← (updateParts t.schema u : Except QueryError _)
    return .affected (← t.update assignments conditions)
  | .delete d => do
    let conditions ← (conditionsOf? d.selection : Except QueryError Conditions)
    return .affected (← t.delete conditions)

/-- The table that a statement acts on. -/
def Registry.tableFor {σ : Type} (r : Registry σ) (s : Statement) : Except QueryError (Table σ) :=
  match s.tableName with
  | none => .error (.invalid "statement has no target table")
  | some name =>
    match r.find? name with
    | some t => .ok t
    | none => .error (.invalid ("no handler registered for table '" ++ name ++ "'"))

/-- **A statement carried out**, from its text. -/
def Registry.execute {σ : Type} (r : Registry σ) (text : String) : Action σ Outcome := do
  let s ← (Statement.read text : Except QueryError Statement)
  let t ← (r.tableFor s : Except QueryError (Table σ))
  t.execute s

end Pushdown
