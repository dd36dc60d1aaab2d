import Pushdown.Sql.Token

/-!
# Statements as written

The tree of a statement keeps apart what the engine can act on and holds everything else as its
canonical text. An expression is a column, a literal, a comparison and so on, or `verbatim`: the
text of a construct that no later stage looks into and that an error message has to repeat. In the
same way a query keeps each of its clauses, so that a later stage can say which of them it drops,
but a clause that is only ever repeated is a text.

`Expr.text` is the canonical text of an expression: keywords in upper case, one space between
tokens, names and literals as `Token` spells them.
-/

namespace Pushdown.Sql

/-! ### Expressions -/

/-- Operators that join two operands and that the engine knows. -/
inductive BinaryOp where
  /-- Equality. -/
  | eq
  /-- Inequality. -/
  | notEq
  /-- Less. -/
  | lt
  /-- Less or equal. -/
  | le
  /-- Greater. -/
  | gt
  /-- Greater or equal. -/
  | ge
  /-- Conjunction. -/
  | and
  /-- Disjunction. -/
  | or
  deriving DecidableEq, Repr

/-- The canonical sign of an operator. -/
def BinaryOp.text : BinaryOp → String
  | .eq => "="
  | .notEq => "<>"
  | .lt => "<"
  | .le => "<="
  | .gt => ">"
  | .ge => ">="
  | .and => "AND"
  | .or => "OR"

/-- **An expression as written.** -/
inductive Expr where
  /-- A column, by the parts of its name. -/
  | column (parts : List Name)
  /-- A number, by its characters. -/
  | number (digits : String) (long : Bool)
  /-- A text in plain quotes. -/
  | quoted (value : String)
  /-- A truth value. -/
  | boolean (value : Bool)
  /-- The null value. -/
  | null
  /-- A minus before an operand. -/
  | minus (operand : Expr)
  /-- Negation. -/
  | not (operand : Expr)
  /-- Parentheses around one expression. -/
  | nested (inner : Expr)
  /-- Two operands and an operator that the engine knows. -/
  | binary (left : Expr) (op : BinaryOp) (right : Expr)
  /-- Membership in a list of expressions. -/
  | inList (operand : Expr) (items : List Expr) (negated : Bool)
  /-- A pattern match without an escape character. -/
  | like (operand pattern : Expr) (negated : Bool)
  /-- An array of expressions; `named` if the word `ARRAY` stands in front. -/
  | array (items : List Expr) (named : Bool)
  /-- A function called with plain arguments, and its whole text. -/
  | call (name : String) (args : List Expr) (whole : String)
  /-- Anything else, by its text. -/
  | verbatim (text : String)

/-- `NOT` and a space, or nothing. -/
def notText (negated : Bool) : String := if negated then "NOT " else ""

mutual
/-- **The canonical text of an expression.** -/
def Expr.text : Expr → String
  | .column parts => pathText parts
  | .number digits long => if long then digits ++ "L" else digits
  | .quoted s => quotedText s
  | .boolean b => if b then "true" else "false"
  | .null => "NULL"
  | .minus e => "-" ++ e.text
  | .not e => "NOT " ++ e.text
  | .nested e => "(" ++ e.text ++ ")"
  | .binary l op r => l.text ++ " " ++ op.text ++ " " ++ r.text
  | .inList e items negated =>
    e.text ++ " " ++ notText negated ++ "IN (" ++ commaText (Expr.texts items) ++ ")"
  | .like e pattern negated => e.text ++ " " ++ notText negated ++ "LIKE " ++ pattern.text
  | .array items named =>
    (if named then "ARRAY" else "") ++ "[" ++ commaText (Expr.texts items) ++ "]"
  | .call _ _ whole => whole
  | .verbatim s => s
/-- The texts of expressions. -/
def Expr.texts : List Expr → List String
  | [] => []
  | e :: es => e.text :: Expr.texts es
end

/-- The texts of expressions, between commas. -/
def Expr.listText (es : List Expr) : String := commaText (Expr.texts es)

/-! ### Data types -/

/-- How a type was recognised. -/
inductive TypeKind where
  /-- A type that the grammar knows. -/
  | known
  /-- An interval. -/
  | interval
  /-- A name of the user's own. -/
  | custom
  deriving DecidableEq, Repr

/-- **A data type as read.** -/
structure DataType where
  /-- The canonical text. -/
  text : String
  /-- How it was recognised. -/
  kind : TypeKind
  /-- The type was closed by `>>`, so that it closes the type around it too. -/
  closesOuter : Bool

/-! ### Queries -/

/-- One item of a projection. -/
inductive SelectItem where
  /-- All columns, and the text of the item. -/
  | wildcard (whole : String)
  /-- An expression with an optional name of its own. -/
  | expr (value : Expr) (name : Option Name)

/-- The canonical text of an item of a projection. -/
def SelectItem.text : SelectItem → String
  | .wildcard whole => whole
  | .expr e none => e.text
  | .expr e (some n) => e.text ++ " AS " ++ n.text

/-- The alias of a source, with names for its columns. -/
structure TableAlias where
  /-- The alias. -/
  name : Name
  /-- Names for the columns. -/
  columns : List Name

/-- The canonical text of an alias. -/
def TableAlias.text (a : TableAlias) : String :=
  a.name.text ++
    (if a.columns.isEmpty then "" else " (" ++ commaText (a.columns.map Name.text) ++ ")")

/-- What a source is. -/
inductive SourceKind where
  /-- A table or a table function, by its name. -/
  | named (name : List Name)
  /-- A join in parentheses. -/
  | join
  /-- A subquery, a list of values or anything else. -/
  | other

/-- **A source of rows**: its text before and behind the alias, and the alias. -/
structure Source where
  /-- What the source is. -/
  kind : SourceKind
  /-- The text before the alias. -/
  body : String
  /-- The alias. -/
  alias? : Option TableAlias
  /-- The text behind the alias. -/
  tail : String

/-- The canonical text of a source. -/
def Source.text (s : Source) : String :=
  s.body ++ (match s.alias? with
    | none => ""
    | some a => " AS " ++ a.text) ++ s.tail

/-- A source and the texts of what is joined to it. -/
structure JoinedSource where
  /-- The first source. -/
  source : Source
  /-- The joins behind it, each from its leading space on. -/
  joins : List String

/-- The canonical text of a source with its joins. -/
def JoinedSource.text (s : JoinedSource) : String :=
  s.source.text ++ String.join s.joins

/-- **A single SELECT**, clause by clause. -/
structure Select where
  /-- The `DISTINCT` clause. -/
  distinct : Option String
  /-- The `TOP` clause. -/
  top : Option String
  /-- The items asked for. -/
  projection : List SelectItem
  /-- The `INTO` clause. -/
  into : Option String
  /-- The sources. -/
  sources : List JoinedSource
  /-- The lateral views, each from its leading space on. -/
  lateralViews : List String
  /-- The filter before the main one. -/
  prewhere : Option Expr
  /-- The filter. -/
  selection : Option Expr
  /-- The `GROUP BY` clause. -/
  groupBy : Option String
  /-- The `CLUSTER BY`, `DISTRIBUTE BY` and `SORT BY` clauses. -/
  distribution : List String
  /-- The filter on groups. -/
  having : Option Expr
  /-- The named windows. -/
  windows : Option String
  /-- The filter on window functions. -/
  qualify : Option Expr
  /-- The named windows stand before the filter on window functions. -/
  windowsFirst : Bool
  /-- The `START WITH` and `CONNECT BY` clauses. -/
  hierarchy : Option String

/-- A space and a text, or nothing. -/
def spaced : Option String → String
  | none => ""
  | some s => " " ++ s

/-- A clause of an expression: a space, a keyword and its text, or nothing. -/
def clauseText (keyword : String) (e : Option Expr) : String :=
  spaced (e.map fun e => keyword ++ " " ++ e.text)

/-- The canonical text of a SELECT. -/
def Select.text (s : Select) : String :=
  let windows := spaced s.windows
  let qualify := clauseText "QUALIFY" s.qualify
  "SELECT" ++ spaced s.distinct ++ spaced s.top ++ " " ++
    commaText (s.projection.map SelectItem.text) ++ spaced s.into ++
    (if s.sources.isEmpty then "" else " FROM " ++ commaText (s.sources.map JoinedSource.text)) ++
    String.join s.lateralViews ++ clauseText "PREWHERE" s.prewhere ++
    clauseText "WHERE" s.selection ++ spaced s.groupBy ++
    String.join (s.distribution.map (" " ++ ·)) ++ clauseText "HAVING" s.having ++
    (if s.windowsFirst then windows ++ qualify else qualify ++ windows) ++ spaced s.hierarchy

/-- What a query takes its rows from. -/
inductive QueryBody where
  /-- A single SELECT. -/
  | select (s : Select)
  /-- Rows of expressions; `explicit` if the word `ROW` stands before them. -/
  | values (rows : List (List Expr)) (explicit : Bool)
  /-- A set operation, a query in parentheses or a statement, by its text. -/
  | other (whole : String)

/-- The canonical text of a query's body. -/
def QueryBody.text : QueryBody → String
  | .select s => s.text
  | .values rows explicit =>
    "VALUES " ++ commaText (rows.map fun row =>
      (if explicit then "ROW" else "") ++ "(" ++ Expr.listText row ++ ")")
  | .other whole => whole

/-- **One key of an order.** -/
structure OrderItem where
  /-- The expression to order by. -/
  expr : Expr
  /-- The direction, if one is written. -/
  ascending : Option Bool
  /-- Where nulls go, if it is written. -/
  nullsFirst : Option Bool
  /-- The `WITH FILL` clause. -/
  fill : Option String

/-- The canonical text of a key of an order. -/
def OrderItem.text (o : OrderItem) : String :=
  o.expr.text ++
    (match o.ascending with
      | none => ""
      | some true => " ASC"
      | some false => " DESC") ++
    (match o.nullsFirst with
      | none => ""
      | some true => " NULLS FIRST"
      | some false => " NULLS LAST") ++ spaced o.fill

/-- The number of rows to skip, and the unit written behind it. -/
structure Offset where
  /-- How many. -/
  value : Expr
  /-- `ROW`, `ROWS` or nothing. -/
  unit : Option String

/-- **A query**, clause by clause. -/
structure Query where
  /-- The `WITH` clause. -/
  with? : Option String
  /-- What the rows come from. -/
  body : QueryBody
  /-- The keys of the order. -/
  orderBy : List OrderItem
  /-- The `INTERPOLATE` clause. -/
  interpolate : Option String
  /-- How many rows to return. -/
  limit : Option Expr
  /-- How many rows to skip. -/
  offset : Option Offset
  /-- The groups that the limit counts in. -/
  limitBy : List Expr
  /-- The `SETTINGS` clause. -/
  settings : Option String
  /-- The `FETCH` clause. -/
  fetch : Option String
  /-- The locks. -/
  locks : List String
  /-- The `FOR` clause that is not a lock. -/
  forClause : Option String
  /-- The `FORMAT` clause. -/
  format : Option String

/-- The canonical text of a query. -/
def Query.text (q : Query) : String :=
  (match q.with? with
    | none => ""
    | some w => w ++ " ") ++ q.body.text ++
    (if q.orderBy.isEmpty then "" else
      " ORDER BY " ++ commaText (q.orderBy.map OrderItem.text) ++ spaced q.interpolate) ++
    clauseText "LIMIT" q.limit ++
    (match q.offset with
      | none => ""
      | some o => " OFFSET " ++ o.value.text ++ spaced o.unit) ++
    (if q.limitBy.isEmpty then "" else " BY " ++ Expr.listText q.limitBy) ++
    spaced q.settings ++ spaced q.fetch ++ String.join (q.locks.map (" " ++ ·)) ++
    spaced q.forClause ++ spaced q.format

/-! ### Statements -/

/-- **An INSERT.** -/
structure Insert where
  /-- The name of the table. -/
  table : List Name
  /-- The columns named, none if the list is left out. -/
  columns : List Name
  /-- Where the rows come from, nothing for default values. -/
  source : Option Query

/-- What an assignment sets. -/
inductive AssignmentTarget where
  /-- A column. -/
  | column (parts : List Name)
  /-- Several columns at once. -/
  | tuple (columns : List (List Name))

/-- **An UPDATE.** -/
structure Update where
  /-- The table and what is joined to it. -/
  table : JoinedSource
  /-- Targets and values. -/
  assignments : List (AssignmentTarget × Expr)
  /-- The further source. -/
  source : Option JoinedSource
  /-- The filter. -/
  selection : Option Expr

/-- **A DELETE.** -/
structure Delete where
  /-- The tables to delete from. -/
  tables : List JoinedSource
  /-- The further sources. -/
  using? : Option (List JoinedSource)
  /-- The filter. -/
  selection : Option Expr
  /-- The keys of the order. -/
  orderBy : List OrderItem
  /-- How many rows to delete. -/
  limit : Option Expr

/-- **A statement.** -/
inductive Statement where
  /-- A query. -/
  | query (q : Query)
  /-- An insertion. -/
  | insert (i : Insert)
  /-- A change of rows. -/
  | update (u : Update)
  /-- A removal of rows. -/
  | delete (d : Delete)
  /-- Any other statement, by the keyword that its canonical text starts with. -/
  | other (keyword : String)

end Pushdown.Sql
