import Pushdown.Condition
import Pushdown.Json.Reader

/-!
# Conditions in a remote side's own words

A remote side that filters does so in a form of its own. Two forms are known: a **boolean
expression** over the documents of one column, and **request parameters**, one per column. A
dialect says which conditions it can express and how.

`partitionConditions` divides conditions in three, each part in the order of the conditions: those
the dialect expresses, those it leaves to be checked afterwards, and at most one that asks for the
nearest neighbours of a vector. A condition that the dialect should express but cannot is an error;
dropping it would let through rows that were not asked for. So every condition is in exactly one of
the parts.
-/

namespace Pushdown

open Number

/-! ### Filters -/

/-- **A filter in a remote side's form.** -/
inductive TargetFilter where
  /-- A boolean expression. -/
  | expression (text : String)
  /-- Request parameters, in the order of the conditions. -/
  | parameters (entries : List (String × String))
  deriving DecidableEq, Repr

/-- The expression of a filter that is one. -/
def TargetFilter.expression? : TargetFilter → Option String
  | .expression text => some text
  | .parameters _ => none

/-- The parameters of a filter, none if it is an expression. -/
def TargetFilter.entries : TargetFilter → List (String × String)
  | .expression _ => []
  | .parameters entries => entries

/-- **A search for the nearest neighbours of a vector.** The numbers of the vector are of single
precision. -/
structure Similarity where
  /-- The column that asked for the search. -/
  column : String
  /-- The vector. -/
  vector : List Double
  deriving DecidableEq, Repr

/-- **Conditions divided** between a remote side and what follows. -/
structure Translation where
  /-- The filter for the remote side. -/
  pushed : Option TargetFilter
  /-- The conditions left to be checked afterwards. -/
  residual : Conditions
  /-- The search for neighbours. -/
  similarity : Option Similarity
  deriving DecidableEq

/-! ### Vectors -/

/-- The words for what a vector is made of. -/
def vectorKind : String := "array of numbers"

/-- The number of an item of a vector, in single precision. -/
def vectorItem (column : String) : Json → Except QueryError Double
  | .number n => .ok n.toDouble.toSingle
  | v => .error (.schemaMismatch column vectorKind ("array containing " ++ v.kind))

/-- What a vector is read from: the value that is given, or what a text holds as JSON. -/
def vectorSource? : Json → Option Json
  | .string text => Json.read? text
  | v => some v

/-- **The vector of a condition**: an array of numbers that is not empty, or the JSON text of one.
-/
def vectorOf (c : Condition) : Except QueryError (List Double) :=
  let given := c.operand.scalar?.getD .null
  match vectorSource? given with
  | none => .error (.mismatch c.column vectorKind given)
  | some (.array (item :: items)) => (item :: items).mapM (vectorItem c.column)
  | some v => .error (.mismatch c.column vectorKind v)

/-! ### The division -/

/-- **What a dialect says about conditions.** -/
structure Rules (α : Type) where
  /-- The name of the remote side. -/
  target : String
  /-- The column that asks for a search. -/
  similarityColumn : Option String
  /-- The condition is for the remote side. -/
  isPushable : Condition → Bool
  /-- A condition in the remote side's form. -/
  render : Condition → Except QueryError α

/-- The refusal of an operator that a remote side does not have for a column. -/
def Condition.unsupportedBy (c : Condition) (target : String) : QueryError :=
  .unsupportedOperator c.op c.column target

/-- Conditions divided: rendered, left over, and the search. -/
structure Partition (α : Type) where
  /-- The rendered conditions. -/
  parts : List α
  /-- The conditions left over. -/
  residual : Conditions
  /-- The search. -/
  similarity : Option Similarity

/-- **The division of conditions**, given the search found before them. -/
def partitionConditions {α : Type} (rules : Rules α) (found : Option Similarity) :
    Conditions → Except QueryError (Partition α)
  | [] => .ok ⟨[], [], found⟩
  | c :: cs =>
    if rules.similarityColumn = some c.column then
      -- a second search is refused before its operator and its vector are looked at
      if found.isSome then
        .error (.invalid ("only one '" ++ c.column ++ "' condition is allowed"))
      else if c.op ≠ .eq then .error (c.unsupportedBy rules.target)
      else do
        let vector ← vectorOf c
        partitionConditions rules (some ⟨c.column, vector⟩) cs
    else if rules.isPushable c then do
      let part ← rules.render c
      let rest ← partitionConditions rules found cs
      return { rest with parts := part :: rest.parts }
    else do
      let rest ← partitionConditions rules found cs
      return { rest with residual := c :: rest.residual }

/-! ### Boolean expressions -/

/-- **The dialect of a store that filters its documents by boolean expressions.** A condition on a
place inside the documents' column is expressed on that place. -/
structure ExpressionDialect where
  /-- The name of the store. -/
  target : String
  /-- The column that holds the documents. -/
  documents : String
  /-- The column that asks for a search. -/
  similarity : String
  deriving DecidableEq, Repr

namespace ExpressionDialect

/-- The sign of an operator in an expression. -/
def sign : Operator → String
  | .eq => "=="
  | .notEq => "!="
  | .lt => "<"
  | .le => "<="
  | .gt => ">"
  | .ge => ">="
  | .isIn => "in"
  | .notIn => "not in"
  | .like => "like"
  | .notLike => "not like"

/-- **A place inside documents**: a field, then a key in brackets for every further step. -/
def placeText (field : String) : String :=
  match Text.splitOn '.' field.toList with
  | [] => ""
  | first :: steps =>
    String.ofList first ++
      String.join (steps.map fun step => "[\"" ++ String.ofList step ++ "\"]")

/-- A value in an expression. There is no null and no object. -/
def literal (d : ExpressionDialect) (column : String) : Json → Except QueryError String
  | .null =>
    .error (.invalid ("cannot compare '" ++ column ++ "' with NULL in a " ++ d.target ++ " filter"))
  | .object entries => .error (.mismatch column "scalar" (.object entries))
  | v => .ok v.text

/-- An operand in an expression: a list stands in brackets. -/
def operand (d : ExpressionDialect) (column : String) : Operand → Except QueryError String
  | .scalar v => d.literal column v
  | .list vs => do
    let items ← vs.mapM (d.literal column)
    return "[" ++ ", ".intercalate items ++ "]"

/-- **One condition in parentheses.** -/
def render (d : ExpressionDialect) (c : Condition) : Except QueryError String := do
  let value ← d.operand c.column c.operand
  return "(" ++ placeText ((c.fieldUnder d.documents).getD c.column) ++ " " ++ sign c.op ++ " " ++
    value ++ ")"

/-- The condition is on a place inside the documents. -/
def isPushable (d : ExpressionDialect) (c : Condition) : Bool :=
  (c.fieldUnder d.documents).any (!·.isEmpty)

/-- The dialect's rules. -/
def rules (d : ExpressionDialect) : Rules String :=
  ⟨d.target, some d.similarity, d.isPushable, d.render⟩

/-- All parts have to hold. -/
def conjoin (parts : List String) : TargetFilter := .expression (" and ".intercalate parts)

end ExpressionDialect

/-! ### Request parameters -/

/-- **The parameter for a column.** -/
structure ParameterField where
  /-- The column. -/
  column : String
  /-- The name of the parameter. -/
  parameter : String
  /-- The operators that the parameter can stand for. -/
  operators : List Operator
  /-- What stands between the values of a list, if a list can be sent. -/
  separator : Option String
  deriving DecidableEq, Repr

/-- **The dialect of an interface whose requests filter by parameters.** -/
structure ParameterDialect where
  /-- The name of the interface. -/
  target : String
  /-- The parameters. -/
  fields : List ParameterField
  deriving DecidableEq, Repr

namespace ParameterDialect

/-- The parameter for a column. -/
def field? (d : ParameterDialect) (column : String) : Option ParameterField :=
  d.fields.find? (·.column == column)

/-- The parameter can stand for the operator. -/
def admits (f : ParameterField) (op : Operator) : Bool :=
  f.operators.contains op && (op != .isIn || f.separator.isSome)

/-- The text of an operand. -/
def operand (f : ParameterField) (column : String) : Operand → Except QueryError String
  | .scalar .null => .error (.invalid ("'" ++ column ++ "' cannot be NULL"))
  | .scalar v => .ok v.bareText
  | .list vs => .ok ((f.separator.getD ",").intercalate (vs.map Json.bareText))

/-- **One condition as a parameter.** -/
def render (d : ParameterDialect) (c : Condition) : Except QueryError (String × String) :=
  match d.field? c.column with
  | none => .error (.unknownColumn c.column .filter)
  | some f =>
    if admits f c.op then (operand f c.column c.operand).map fun text => (f.parameter, text)
    else .error (c.unsupportedBy d.target)

/-- There is a parameter for the condition's column. -/
def isPushable (d : ParameterDialect) (c : Condition) : Bool := (d.field? c.column).isSome

/-- The dialect's rules. -/
def rules (d : ParameterDialect) : Rules (String × String) :=
  ⟨d.target, none, d.isPushable, d.render⟩

/-- **All parameters together**, each name at most once. -/
def conjoin (d : ParameterDialect) (taken : List (String × String)) :
    List (String × String) → Except QueryError TargetFilter
  | [] => .ok (.parameters taken)
  | (name, value) :: rest =>
    if taken.any (·.1 == name) then
      .error (.invalid (d.target ++ " accepts a single value for '" ++ name ++ "'"))
    else d.conjoin (taken ++ [(name, value)]) rest

end ParameterDialect

/-! ### Translation -/

/-- **How a remote side filters.** -/
inductive Dialect where
  /-- By boolean expressions. -/
  | expression (d : ExpressionDialect)
  /-- By request parameters. -/
  | parameters (d : ParameterDialect)
  deriving DecidableEq, Repr

/-- The name of the remote side. -/
def Dialect.target : Dialect → String
  | .expression d => d.target
  | .parameters d => d.target

/-- **The translation of conditions into a dialect.** -/
def translate (cs : Conditions) : Dialect → Except QueryError Translation
  | .expression d => do
    let p ← partitionConditions d.rules none cs
    let pushed := if p.parts.isEmpty then none else some (ExpressionDialect.conjoin p.parts)
    return ⟨pushed, p.residual, p.similarity⟩
  | .parameters d => do
    let p ← partitionConditions d.rules none cs
    let pushed ← if p.parts.isEmpty then pure none else (d.conjoin [] p.parts).map some
    return ⟨pushed, p.residual, p.similarity⟩

end Pushdown
