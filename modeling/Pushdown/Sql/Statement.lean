import Pushdown.Sql.Administration
import Pushdown.Sql.Session
import Pushdown.Sql.Transfer
import Pushdown.Text.Blank

/-!
# Reading statements

Four verbs are kept: SELECT in all its forms, INSERT, UPDATE and DELETE. Every other statement is
refused by the engine under the first word of its canonical text, and nothing else of it is kept. It
is still read to its end, because a text that is no statement at all is refused differently.

The whole grammar is tied together here. `Grammar.within` gives the readers for a number of levels
that are left, and `Statement.readAll` reads a text.
-/

namespace Pushdown.Sql

open Parse

variable (g : Grammar)

/-! ### One statement -/

/-- The statements that are only told apart by the word they begin with, and what follows it. -/
def refusedStatements : List (String × Parse Unit) :=
  [("KILL", killStatement), ("FLUSH", flushStatement), ("DESC", describeStatement g),
   ("DESCRIBE", describeStatement g), ("EXPLAIN", describeStatement g),
   ("ANALYZE", analyzeStatement g), ("TRUNCATE", truncateStatement g),
   ("ATTACH", attachStatement g), ("DETACH", detachStatement), ("MSCK", repairStatement),
   ("CREATE", createStatement g), ("CACHE", cacheStatement g), ("DROP", dropStatement g),
   ("DISCARD", do let _ ← expectKeywordOf ["ALL", "PLANS", "SEQUENCES", "TEMP", "TEMPORARY"]),
   ("DECLARE", declareStatement g), ("FETCH", fetchStatement), ("UNCACHE", uncacheStatement),
   ("ALTER", alterStatement g), ("CALL", callStatement g), ("COPY", copyStatement g),
   ("CLOSE", closeStatement), ("SET", setStatement g), ("SHOW", showStatement g),
   ("USE", do let _ ← name), ("GRANT", grantStatement), ("REVOKE", revokeStatement),
   ("START", do
      expectKeyword "TRANSACTION"
      transactionModes),
   ("BEGIN", beginStatement), ("SAVEPOINT", do let _ ← name), ("RELEASE", releaseStatement),
   ("COMMIT", transactionEnd), ("ROLLBACK", rollbackStatement),
   ("ASSERT", do
      let _ ← g.expression
      let _ ← afterKeyword "AS" g.expression),
   ("DEALLOCATE", deallocateStatement), ("EXECUTE", executeStatement g),
   ("PREPARE", prepareStatement g), ("MERGE", mergeStatement g), ("PRAGMA", pragmaStatement),
   ("INSTALL", do let _ ← name), ("LOAD", do let _ ← name), ("OPTIMIZE", optimizeStatement g)]

/-- The first word of a text that is put behind an opening parenthesis, in upper case. -/
def unloadWord (query : String) : String :=
  "UNLOAD(" ++ String.ofList ((query.toList.takeWhile fun c => !Text.isBlank c).map Char.toUpper)

/-- **A statement.** An `END` by itself ends a transaction. -/
def statementBody : Parse Statement := do
  let start ← ahead
  let t ← next "an SQL statement"
  let k := t.keyword
  if k ∈ ["SELECT", "WITH", "VALUES"] ∨ t = .symbol "(" then do
    set start
    return .query (← g.query)
  else if k = "INSERT" ∨ k = "REPLACE" then return (← insertStatement g).1
  else if k = "UPDATE" then return (← updateStatement g).1
  else if k = "DELETE" then deleteStatement g
  else if k = "UNLOAD" then return .other (unloadWord (← unloadStatement g))
  else if k = "END" then do
    transactionEnd
    return .other "COMMIT"
  else
    match (refusedStatements g).find? fun form => form.1 = k with
    | some (_, rest) => do
      rest
      return .other k
    | none => fail "an SQL statement"

/-! ### The grammar as a whole -/

/-- **The readers for a number of levels.** Each statement, each query and each whole expression
within another takes one level, and with none left it fails. Whatever stands inside a relation of a
hierarchy may speak of prior rows. A reader that stays on its level follows a token, so twice the
number of tokens and of levels is enough of an allowance. -/
def Grammar.within : (allowance : Nat) → (allowsPrior : Bool) → (depth : Nat) → Grammar
  | 0, allowsPrior, _ =>
    ⟨fun _ _ => .error .tooDeep, fun _ => .error .tooDeep, fun _ => .error .tooDeep,
      fun _ => .error .tooDeep, fun _ => .error .tooDeep, fun _ => .error .tooDeep,
      fun _ => .error .tooDeep, allowsPrior⟩
  | allowance + 1, allowsPrior, depth =>
    let below {α : Type} (prior : Bool) (read : Grammar → Parse α) : Parse α := fun ts =>
      match depth with
      | 0 => .error .tooDeep
      | depth + 1 => read (Grammar.within allowance prior depth) ts
    { operation := fun bound ts =>
        boundExpression (Grammar.within allowance allowsPrior depth) bound ts
      operand := fun ts => Sql.operand (Grammar.within allowance allowsPrior depth) ts
      innerType := fun ts => DataType.read (Grammar.within allowance allowsPrior depth) ts
      expression := below allowsPrior fun g => boundExpression g 0
      relation := below true fun g => boundExpression g 0
      query := below allowsPrior queryStatement
      statement := below allowsPrior statementBody
      allowsPrior := allowsPrior }

/-- How many levels a statement may have, itself included. -/
def depthLimit : Nat := 50

/-- **The statements of a text.** Whatever stands behind an `END` that ends them is not looked
at. -/
def Statement.readAll (text : String) : Except SyntaxError (List Statement) := do
  let ts ← tokens text.toList
  let allowance := 2 * (ts.length + depthLimit + 1)
  let (found, _) ← statements (Grammar.within allowance false depthLimit) allowance true ts
  return found

end Pushdown.Sql
