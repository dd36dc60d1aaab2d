import Pushdown.Sql.Query

/-!
# Reading statements on a session

Transactions, variables, prepared statements and cursors: what a client says to the session and not
to the data. All of it is refused by the engine, so the readers only tell statements from texts that
are none.
-/

namespace Pushdown.Sql

open Parse

variable (g : Grammar)

/-! ### Transactions -/

/-- A mode of a transaction, if one is ahead. -/
def transactionMode : Parse Bool := do
  if ← keywords ["ISOLATION", "LEVEL"] then
    let _ ← expectFirstOf [["READ", "UNCOMMITTED"], ["READ", "COMMITTED"], ["REPEATABLE", "READ"],
      ["SERIALIZABLE"]]
    return true
  else return (← firstOf [["READ", "ONLY"], ["READ", "WRITE"]]).isSome

/-- The modes of a transaction, as far as the allowance goes. The comma between them may be left
out, but behind one a mode is due. -/
def transactionModesWithin : (allowance : Nat) → (due : Bool) → Parse Unit
  | 0, _ => return ()
  | allowance + 1, due => do
    if ← transactionMode then transactionModesWithin allowance (← symbol ",")
    else if due then fail "transaction mode"
    else return ()

/-- The modes of a transaction; there may be none. -/
def transactionModes : Parse Unit := do
  transactionModesWithin ((← ahead).length + 1) false

/-- The start of a transaction, behind `BEGIN`. -/
def beginStatement : Parse Unit := do
  let _ ← keywordOf ["DEFERRED", "IMMEDIATE", "EXCLUSIVE"]
  let _ ← keywordOf ["TRANSACTION", "WORK"]
  transactionModes

/-- The end of a transaction, behind the word that closes it. -/
def transactionEnd : Parse Unit := do
  let _ ← keywordOf ["TRANSACTION", "WORK"]
  if ← keyword "AND" then
    let _ ← keyword "NO"
    expectKeyword "CHAIN"

/-- The end of a transaction that is undone, behind `ROLLBACK`; it may go back to a mark only. -/
def rollbackStatement : Parse Unit := do
  transactionEnd
  if ← keyword "TO" then
    let _ ← keyword "SAVEPOINT"
    let _ ← name

/-! ### Variables -/

/-- The variables of an assignment. -/
inductive Variables where
  /-- One variable. -/
  | single (parts : List Name)
  /-- Several variables in parentheses. -/
  | several

/-- The variables that `SET` speaks of. -/
def assignedVariables : Parse Variables := do
  if ← keywords ["TIME", "ZONE"] then return .single [.bare "TIMEZONE"]
  else if ← atSymbol "(" then
    let _ ← names
    return .several
  else return .single (← path)

/-- A value of a variable. -/
def assignedValue : Parse Unit := do
  if ← atKeyword ["SELECT", "WITH"] then
    let _ ← g.query
  else
    let _ ← g.expression

/-- The canonical text of a name with its ASCII letters in upper case. -/
def capitalText (parts : List Name) : String := (pathText parts).map Char.toUpper

/-- The character set of a client, behind `NAMES`. -/
def clientCharset : Parse Unit := do
  if ← keyword "DEFAULT" then return ()
  else
    let _ ← textLiteral
    let _ ← afterKeyword "COLLATE" textLiteral

/-- What follows one variable where neither a sign nor a word of assignment does. The time zone
takes a value at once; the words of transactions are no variables. -/
def unassigned (modified : Bool) (parts : List Name) : Parse Unit := do
  if capitalText parts = "TIMEZONE" then
    let _ ← g.expression
  else if pathText parts = "CHARACTERISTICS" then
    expectKeywords ["AS", "TRANSACTION"]
    transactionModes
  else if pathText parts = "TRANSACTION" ∧ !modified then
    if ← keyword "SNAPSHOT" then
      let _ ← literal
    else transactionModes
  else fail "equals sign or TO"

/-- An assignment to variables, behind `SET` and a modifier. -/
def variableAssignment (modified : Bool) : Parse Unit := do
  let assigned ← assignedVariables
  let charset := match assigned with
    | .single parts => capitalText parts == "NAMES"
    | .several => false
  if charset then clientCharset
  else
    let marked ← do
      if ← symbol "=" then pure true else keyword "TO"
    match marked, assigned with
    | true, .single _ =>
      let _ ← commaSeparated (assignedValue g)
    | true, .several =>
      let _ ← parenthesized (commaSeparated (assignedValue g))
    | false, .single parts => unassigned g modified parts
    | false, .several => fail "equals sign or TO"

/-- The role of a session. -/
def sessionRole : Parse Unit := do
  expectKeyword "ROLE"
  if ← keyword "NONE" then return ()
  else
    let _ ← name

/-- **A setting**, behind `SET`. What does not read as a role may be a variable of that name. -/
def setStatement : Parse Unit := do
  match ← keywordOf ["SESSION", "LOCAL", "HIVEVAR"] with
  | some "HIVEVAR" =>
    expectSymbol ":"
    variableAssignment g true
  | modifier =>
    match ← attempt sessionRole with
    | some _ => return ()
    | none => variableAssignment g modifier.isSome

/-! ### Prepared statements -/

/-- A statement that is kept under a name, behind `PREPARE`. -/
def prepareStatement : Parse Unit := do
  let _ ← name
  if ← atSymbol "(" then
    let _ ← parenthesized (commaSeparated g.dataType)
  expectKeyword "AS"
  let _ ← g.statement

/-- A run of a kept statement, behind `EXECUTE`. -/
def executeStatement : Parse Unit := do
  let _ ← name
  if ← atSymbol "(" then
    let _ ← parenthesized g.expressions
  let _ ← afterKeyword "USING" g.expressions

/-- A kept statement that is let go, behind `DEALLOCATE`. -/
def deallocateStatement : Parse Unit := do
  let _ ← keyword "PREPARE"
  let _ ← name

/-! ### Cursors -/

/-- A cursor, behind `DECLARE`. -/
def declareStatement : Parse Unit := do
  let _ ← name
  let _ ← keyword "BINARY"
  let _ ← keywordOf ["INSENSITIVE", "ASENSITIVE"]
  let _ ← firstOf [["SCROLL"], ["NO", "SCROLL"]]
  expectKeyword "CURSOR"
  if (← keywordOf ["WITH", "WITHOUT"]).isSome then expectKeyword "HOLD"
  expectKeyword "FOR"
  let _ ← g.query

/-- Which rows a cursor is asked for. -/
def fetchDirection : Parse Unit := do
  match ← keywordOf ["NEXT", "PRIOR", "FIRST", "LAST", "ABSOLUTE", "RELATIVE", "FORWARD",
      "BACKWARD", "ALL"] with
  | none =>
    let _ ← quantity
  | some k =>
    if k = "ABSOLUTE" ∨ k = "RELATIVE" then
      let _ ← quantity
    else if k = "FORWARD" ∨ k = "BACKWARD" then
      if ← keyword "ALL" then return ()
      else
        let _ ← quantity
    else return ()

/-- Rows of a cursor, behind `FETCH`. -/
def fetchStatement : Parse Unit := do
  fetchDirection
  let _ ← expectKeywordOf ["FROM", "IN"]
  let _ ← name
  let _ ← afterKeyword "INTO" path

/-- A cursor that is closed, behind `CLOSE`. -/
def closeStatement : Parse Unit := do
  if ← keyword "ALL" then return ()
  else
    let _ ← name

/-- A mark in a transaction that is let go, behind `RELEASE`. -/
def releaseStatement : Parse Unit := do
  let _ ← keyword "SAVEPOINT"
  let _ ← name

end Pushdown.Sql
