import Pushdown.Rows.Compare
import Pushdown.Text.Wildcard

/-!
# Checking conditions on rows

A condition is **compiled** against a schema once: its column is resolved and its values are checked
against the column's type. A number column is compared with numbers, a truth column with truth
values, and a pattern is a text that is not too large; null is a value of every type. The compiled
condition is then tested on row after row.

A condition never holds of a row whose cell is null or missing. Of any other row an equality, an
inequality or an order holds only if cell and value are comparable. Membership asks for one equal
value, its negation for all values to be comparable and unequal.
-/

namespace Pushdown

/-- **A condition with the type of its column**, ready to be tested. -/
structure CompiledCondition where
  /-- The condition. -/
  condition : Condition
  /-- The type of the column. -/
  type : ColumnType
  /-- The pattern to match. -/
  pattern : Option String

/-- A value can be compared with cells of a type. -/
def literalFits (type : ColumnType) (v : Json) : Bool :=
  v.isNull ||
    match type with
    | .integer => (asNumber? v).isSome
    | .float => (asNumber? v).isSome
    | .boolean => (asBool? v).isSome
    | _ => true

/-- The check of a value against the type of its column. -/
def checkLiteral (column : String) (type : ColumnType) (v : Json) : Except QueryError Unit :=
  if literalFits type v then .ok () else .error (.mismatch column type.name v)

/-- How large a pattern may be. -/
def patternSizeLimit : Nat := 10485760

/-- A pattern that is not too large. -/
def acceptedPattern (p : String) : Except QueryError String :=
  if Wildcard.size p ≤ patternSizeLimit then .ok p
  else .error (.invalid ("bad LIKE pattern '" ++ p ++ "': Compiled regex exceeds size limit of " ++
    Number.intText patternSizeLimit ++ " bytes."))

/-- The pattern of a condition that matches patterns. -/
def patternOf (c : Condition) : Except QueryError (Option String) :=
  match c.op, c.operand with
  | .like, .scalar (.string p) => (acceptedPattern p).map some
  | .notLike, .scalar (.string p) => (acceptedPattern p).map some
  | .like, .scalar v => .error (.mismatch c.column "string pattern" v)
  | .notLike, .scalar v => .error (.mismatch c.column "string pattern" v)
  | _, _ => .ok none

namespace CompiledCondition

/-- **A condition compiled against a schema.** -/
def compile (schema : Schema) (c : Condition) : Except QueryError CompiledCondition := do
  let type ← schema.require c.column .filter
  c.operand.values.forM (checkLiteral c.column type)
  let pattern ← patternOf c
  return ⟨c, type, pattern⟩

/-- A cell matches the pattern; without a pattern nothing does. -/
def likes (c : CompiledCondition) (cell : Json) : Bool :=
  c.pattern.any fun p => Wildcard.test p cell.bareText

/-- **The test of a cell that is not null.** -/
def testCell (c : CompiledCondition) (cell : Json) : Bool :=
  let against (v : Json) : Option Ordering := compareCells? c.type cell v
  match c.condition.op, c.condition.operand with
  | .eq, .scalar v => against v == some .eq
  | .notEq, .scalar v => (against v).any (· != .eq)
  | .lt, .scalar v => against v == some .lt
  | .le, .scalar v => (against v).any (· != .gt)
  | .gt, .scalar v => against v == some .gt
  | .ge, .scalar v => (against v).any (· != .lt)
  | .isIn, operand => operand.values.any fun v => against v == some .eq
  | .notIn, operand => operand.values.all fun v => (against v).any (· != .eq)
  | .like, _ => c.likes cell
  | .notLike, _ => !c.likes cell
  | _, .list _ => false

/-- **The test of a row.** A null or missing cell meets no condition. -/
def test (c : CompiledCondition) (row : Record) : Bool :=
  match lookup row c.condition.column with
  | none => false
  | some .null => false
  | some cell => c.testCell cell

end CompiledCondition

/-- All conditions of a list compiled. -/
def compileAll (schema : Schema) (cs : Conditions) : Except QueryError (List CompiledCondition) :=
  cs.mapM (CompiledCondition.compile schema)

/-- A row meets all conditions. -/
def meetsAll (cs : List CompiledCondition) (row : Record) : Bool := cs.all (·.test row)

end Pushdown
