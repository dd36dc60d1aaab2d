import Pushdown.Error
import Pushdown.Expression
import Pushdown.Sql.Statement

/-!
# Statements that the engine understands

A statement acts on one table: it selects, inserts, updates or deletes. `Statement.ofSql` takes such
a statement from the tree of clauses and refuses the clauses that no table supports; the order of
its checks decides which of two faults is reported. `Statement.read` is the way from text.
-/

namespace Pushdown

open Number

/-! ### The four kinds -/

/-- One item of a selection. -/
inductive SelectTarget where
  /-- All columns. -/
  | wildcard
  /-- An expression with an optional name of its own. -/
  | expr (value : Expression) (alias? : Option String)

/-- One key of an order, as an expression. -/
structure SortItem where
  /-- The expression to order by. -/
  expr : Expression
  /-- Smaller values come first. -/
  ascending : Bool

/-- **A selection of rows.** -/
structure SelectStatement where
  /-- The items asked for. -/
  targets : List SelectTarget
  /-- The table. -/
  source : Option TableRef
  /-- The filter. -/
  selection : Option Expression
  /-- The keys of the order. -/
  orderBy : List SortItem
  /-- How many rows to return. -/
  limit : Option Nat
  /-- How many rows to skip. -/
  offset : Option Nat

/-- **An insertion of rows.** -/
structure InsertStatement where
  /-- The table. -/
  table : TableRef
  /-- The columns named, none if the list is left out. -/
  columns : List String
  /-- The rows. -/
  rows : List (List Expression)

/-- **A change of rows.** -/
structure UpdateStatement where
  /-- The table. -/
  table : TableRef
  /-- Columns and their new values. -/
  assignments : List (String × Expression)
  /-- The filter. -/
  selection : Option Expression

/-- **A removal of rows.** -/
structure DeleteStatement where
  /-- The table. -/
  table : TableRef
  /-- The filter. -/
  selection : Option Expression

/-- **A statement on one table.** -/
inductive Statement where
  /-- A selection. -/
  | select (s : SelectStatement)
  /-- An insertion. -/
  | insert (i : InsertStatement)
  /-- A change. -/
  | update (u : UpdateStatement)
  /-- A removal. -/
  | delete (d : DeleteStatement)

/-- The name of the table that a statement acts on. -/
def Statement.tableName : Statement → Option String
  | .select s => s.source.map (·.name)
  | .insert i => some i.table.name
  | .update u => some u.table.name
  | .delete d => some d.table.name

/-! ### From the tree of clauses -/

/-- The name of a table: the last part of its path. -/
def lastName (parts : List Sql.Name) : String :=
  match parts.getLast? with
  | some n => n.value
  | none => ""

/-- The table that a source is. -/
def TableRef.ofSql (s : Sql.Source) : Except QueryError TableRef :=
  match s.kind with
  | .named parts => .ok ⟨lastName parts, s.alias?.map (·.name.value)⟩
  | _ => .error (.unsupportedStatement "complex table ref")

/-- The count that a clause asks for: a plain number below two to the sixty-fourth. -/
def countOf (clause : String) : Sql.Expr → Except QueryError Nat
  | .number digits _ =>
    match readNat64? digits.toList with
    | some n => .ok n
    | none => refused digits
  | e => refused e.text
where
  /-- The refusal of what stands in place of the count. -/
  refused (found : String) : Except QueryError Nat :=
    .error (.invalid (clause ++ " must be a non-negative integer, got " ++ found))

/-- The count of an optional clause. -/
def countOf? (clause : String) : Option Sql.Expr → Except QueryError (Option Nat)
  | none => .ok none
  | some e => (countOf clause e).map some

/-- An item of a selection, read within a scope. -/
def SelectTarget.ofSql (scope : Scope) : Sql.SelectItem → SelectTarget
  | .wildcard _ => .wildcard
  | .expr e name => .expr (.ofSql scope e) (name.map (·.value))

/-- A key of an order, read within a scope; it is ascending unless it says otherwise. -/
def SortItem.ofSql (scope : Scope) (o : Sql.OrderItem) : SortItem :=
  ⟨.ofSql scope o.expr, o.ascending.getD true⟩

/-- The only table of a list of sources, if there is a source. -/
def onlyTable : List Sql.JoinedSource → Except QueryError (Option TableRef)
  | [] => .ok none
  | s :: _ => (TableRef.ofSql s.source).map some

/-- **A selection, from a query.** Clauses of groups, joins and nested queries are refused. -/
def SelectStatement.ofSql (q : Sql.Query) : Except QueryError SelectStatement := do
  if q.with?.isSome then throw (.unsupportedStatement "WITH")
  match q.body with
  | .select s =>
    if 1 < s.sources.length || (s.sources.head?.any fun t => !t.joins.isEmpty) then
      throw (.unsupportedStatement "JOIN")
    if s.distinct.isSome then throw (.unsupportedStatement "DISTINCT")
    if s.having.isSome then throw (.unsupportedStatement "HAVING")
    if s.groupBy.isSome then throw (.unsupportedStatement "GROUP BY")
    let source ← onlyTable s.sources
    let scope : Scope := (source.map TableRef.scope).getD []
    let limit ← countOf? "LIMIT" q.limit
    let offset ← countOf? "OFFSET" (q.offset.map (·.value))
    return {
      targets := s.projection.map (.ofSql scope)
      source := source
      selection := s.selection.map (.ofSql scope)
      orderBy := q.orderBy.map (.ofSql scope)
      limit := limit
      offset := offset }
  | _ => throw (.unsupportedStatement "set operation")

/-- **An insertion, from its clauses.** The rows are given by `VALUES`, and if columns are named
every row has as many values as there are columns. -/
def InsertStatement.ofSql (i : Sql.Insert) : Except QueryError InsertStatement := do
  let table : TableRef := ⟨lastName i.table, none⟩
  let columns := i.columns.map (·.value)
  match i.source with
  | none => throw (.unsupportedStatement "INSERT without VALUES")
  | some q =>
    match q.body with
    | .values rows _ =>
      let rows := rows.map (Expression.ofSqls table.scope)
      match rows.find? fun row => !columns.isEmpty && row.length != columns.length with
      | some row =>
        throw (.invalid ("INSERT row has " ++ intText row.length ++ " values for " ++
          intText columns.length ++ " columns"))
      | none => return ⟨table, columns, rows⟩
    | _ => throw (.unsupportedStatement "INSERT ... SELECT")

/-- An assignment, read within a scope. -/
def assignmentOf (scope : Scope) : Sql.AssignmentTarget × Sql.Expr →
    Except QueryError (String × Expression)
  | (.column parts, e) => .ok (scope.columnPath parts, .ofSql scope e)
  | (.tuple _, _) => .error (.unsupportedStatement "tuple assignment")

/-- **A change of rows, from its clauses.** -/
def UpdateStatement.ofSql (u : Sql.Update) : Except QueryError UpdateStatement := do
  let table ← TableRef.ofSql u.table.source
  let assignments ← u.assignments.mapM (assignmentOf table.scope)
  return ⟨table, assignments, u.selection.map (.ofSql table.scope)⟩

/-- **A removal of rows, from its clauses.** -/
def DeleteStatement.ofSql (d : Sql.Delete) : Except QueryError DeleteStatement := do
  match d.tables with
  | [t] =>
    if !t.joins.isEmpty then throw (.unsupportedStatement "multi-table DELETE")
    let table ← TableRef.ofSql t.source
    return ⟨table, d.selection.map (.ofSql table.scope)⟩
  | _ => throw (.unsupportedStatement "multi-table DELETE")

/-- **A statement, from its tree.** -/
def Statement.ofSql : Sql.Statement → Except QueryError Statement
  | .query q => (SelectStatement.ofSql q).map .select
  | .insert i => (InsertStatement.ofSql i).map .insert
  | .update u => (UpdateStatement.ofSql u).map .update
  | .delete d => (DeleteStatement.ofSql d).map .delete
  | .other keyword => .error (.unsupportedStatement keyword)

/-! ### From text -/

/-- **A statement, from its text.** The text holds exactly one statement. -/
def Statement.read (text : String) : Except QueryError Statement :=
  match Sql.Statement.readAll text with
  | .error cause => .error (.parse cause)
  | .ok [s] => Statement.ofSql s
  | .ok ss => .error (.unsupportedStatement ("expected one statement, got " ++ intText ss.length))

/-- A selection, from its text. -/
def SelectStatement.read (text : String) : Except QueryError SelectStatement := do
  match ← Statement.read text with
  | .select s => return s
  | _ => throw (.unsupportedStatement "expected SELECT")

end Pushdown
