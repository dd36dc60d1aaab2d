import Pushdown.Json.Writer
import Pushdown.Sql.Syntax

/-!
# Expressions that the engine understands

The tree of a statement as the engine acts on it: columns by their dotted path, literals by their
JSON value, and the few constructs that a filter may consist of. Everything else is `raw`, the text
of a construct that no table supports and that an error message names.

`Expression.ofSql` reads an expression as written within a **scope**, the names by which the
statement's own table goes. A column that starts with one of them loses it, so `t.price` and
`price` are the same column of `t`.
-/

namespace Pushdown

open Number

/-- **An expression that the engine understands.** -/
inductive Expression where
  /-- A column, by its dotted path. -/
  | column (path : String)
  /-- A value. -/
  | literal (value : Json)
  /-- Two operands and an operator. -/
  | binary (left : Expression) (op : Sql.BinaryOp) (right : Expression)
  /-- Membership in a list. -/
  | inList (operand : Expression) (items : List Expression) (negated : Bool)
  /-- A pattern match. -/
  | like (operand pattern : Expression) (negated : Bool)
  /-- Negation. -/
  | not (operand : Expression)
  /-- A function call. -/
  | call (name : String) (args : List Expression)
  /-- Any other construct, by its text. -/
  | raw (text : String)

/-- The sign of an operator in a description. -/
def operatorLabel : Sql.BinaryOp → String
  | .notEq => "!="
  | op => op.text

/-- **A short label for an expression**, for the message that rejects it. -/
def Expression.describe : Expression → String
  | .column path => "column " ++ path
  | .literal value => "literal " ++ value.text
  | .binary _ op _ => operatorLabel op ++ " expression"
  | .inList _ _ negated => if negated then "NOT IN list" else "IN list"
  | .like _ _ negated => if negated then "NOT LIKE" else "LIKE"
  | .not _ => "NOT expression"
  | .call name _ => "function call " ++ name ++ "()"
  | .raw text => "expression \x60" ++ text ++ "\x60"

/-- The value of a literal. -/
def Expression.literal? : Expression → Option Json
  | .literal value => some value
  | _ => none

/-! ### Scopes -/

/-- A table and the other name that a statement gives it. -/
structure TableRef where
  /-- The name of the table. -/
  name : String
  /-- The other name. -/
  alias? : Option String
  deriving DecidableEq, Repr

/-- The names by which a statement's own table goes. -/
abbrev Scope := List String

/-- The names of a table within its statement. -/
def TableRef.scope (t : TableRef) : Scope := t.name :: t.alias?.toList

/-- Equality of names, the case of ASCII letters aside. -/
def sameName (a b : String) : Bool := a.toLower == b.toLower

/-- **The path of a column within a scope.** The first of several parts is dropped if it names the
statement's own table. -/
def Scope.columnPath (scope : Scope) (parts : List Sql.Name) : String :=
  let names := parts.map (·.value)
  match names with
  | first :: second :: rest =>
    ".".intercalate (if scope.any (sameName · first) then second :: rest else names)
  | _ => ".".intercalate names

/-! ### Literals -/

/-- **The value of a number as written.** A number of digits within the range of sixty-four bits
with sign is an integer; any other number is the nearest one with a fraction, and null if that is
infinite. What is no number at all stays a text. -/
def numberLiteral (digits : String) (negated : Bool) : Json :=
  match readInt64? digits.toList with
  | some i => .ofInt (if negated then -i else i)
  | none =>
    match Double.read? digits.toList with
    | some x => .ofDouble (if negated then x.neg else x)
    | none => .string (if negated then "-" ++ digits else digits)

/-- The values of expressions, if all of them are literals. -/
def literals? (es : List Expression) : Option (List Json) := es.mapM Expression.literal?

mutual
/-- **An expression as written, read within a scope.** -/
def Expression.ofSql (scope : Scope) : Sql.Expr → Expression
  | .column parts => .column (scope.columnPath parts)
  | .number digits _ => .literal (numberLiteral digits false)
  | .quoted s => .literal (.string s)
  | .boolean b => .literal (.bool b)
  | .null => .literal .null
  | .minus (.number digits _) => .literal (numberLiteral digits true)
  | .minus e => .raw (Sql.Expr.minus e).text
  | .not e => .not (Expression.ofSql scope e)
  | .nested e => Expression.ofSql scope e
  | .binary l op r => .binary (Expression.ofSql scope l) op (Expression.ofSql scope r)
  | .inList e items negated =>
    .inList (Expression.ofSql scope e) (Expression.ofSqls scope items) negated
  | .like e pattern negated =>
    .like (Expression.ofSql scope e) (Expression.ofSql scope pattern) negated
  | .array items named =>
    match literals? (Expression.ofSqls scope items) with
    | some values => .literal (.array values)
    | none => .raw (Sql.Expr.array items named).text
  | .call name args _ => .call name (Expression.ofSqls scope args)
  | .verbatim s => .raw s
/-- Expressions as written, read within a scope. -/
def Expression.ofSqls (scope : Scope) : List Sql.Expr → List Expression
  | [] => []
  | e :: es => Expression.ofSql scope e :: Expression.ofSqls scope es
end

end Pushdown
