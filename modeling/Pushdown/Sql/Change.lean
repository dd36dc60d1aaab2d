import Pushdown.Sql.Query

/-!
# Reading changes of rows

Insertions, updates, removals and merges. An insertion or an update may stand where a query does,
and then it is repeated in error messages like any query; so the readers of these two also give the
canonical text. A merge is only ever refused, but it is read in full, because a text that is no
merge is refused for another reason.
-/

namespace Pushdown.Sql

open Parse

variable (g : Grammar)

/-! ### Clauses of several changes -/

/-- An assignment. -/
def assignment : Parse (AssignmentTarget × Expr) := do
  let target ← do
    if ← atSymbol "(" then pure (.tuple (← parenthesized (commaSeparated path)))
    else pure (.column (← path))
  expectSymbol "="
  return (target, ← g.expression)

/-- The canonical text of what an assignment sets. -/
def AssignmentTarget.text : AssignmentTarget → String
  | .column parts => pathText parts
  | .tuple columns => "(" ++ commaText (columns.map pathText) ++ ")"

/-- The canonical text of assignments. -/
def assignmentsText (items : List (AssignmentTarget × Expr)) : String :=
  commaText (items.map fun item => item.1.text ++ " = " ++ item.2.text)

/-- The rows that a change gives back, from its leading space on, if any are asked for. -/
def returningClause : Parse String := do
  let items ← afterKeyword "RETURNING" (commaSeparated (selectItem g))
  return spaced (items.map fun items => "RETURNING " ++ commaText (items.map SelectItem.text))

/-- A filter, from its leading space on, if there is one. -/
def whereClause : Parse String := do
  return clauseText "WHERE" (← afterKeyword "WHERE" g.expression)

/-! ### Insertions -/

/-- What an insertion does with a row that is there already, behind `ON` and from its leading space
on. -/
def conflictClause : Parse String := do
  if ← keyword "CONFLICT" then
    let target ← do
      if ← keywords ["ON", "CONSTRAINT"] then pure (" ON CONSTRAINT " ++ pathText (← path))
      else if ← atSymbol "(" then pure ("(" ++ commaText ((← names).map Name.text) ++ ")")
      else pure ""
    expectKeyword "DO"
    if ← keyword "NOTHING" then return " ON CONFLICT" ++ target ++ " DO NOTHING"
    else
      expectKeywords ["UPDATE", "SET"]
      let items ← commaSeparated (assignment g)
      return " ON CONFLICT" ++ target ++ " DO UPDATE SET " ++ assignmentsText items ++
        (← whereClause g)
  else
    expectKeywords ["DUPLICATE", "KEY", "UPDATE"]
    return " ON DUPLICATE KEY UPDATE " ++ assignmentsText (← commaSeparated (assignment g))

/-- Formats of files. -/
def fileFormats : List String :=
  ["AVRO", "JSONFILE", "ORC", "PARQUET", "RCFILE", "SEQUENCEFILE", "TEXTFILE"]

/-- An insertion into a directory, behind that word; `before` is its text up to there. -/
def directoryInsert (before : String) : Parse (Statement × String) := do
  let place ← textLiteral
  let format ← do
    if ← keywords ["STORED", "AS"] then pure (some (← expectKeywordOf fileFormats)) else pure none
  let q ← g.query
  return (.other "INSERT", before ++ " DIRECTORY '" ++ place ++ "'" ++
    spaced (format.map ("STORED AS " ++ ·)) ++ " " ++ q.text)

/-- An insertion into a table, behind the words that open it; `before` is its text up to there. -/
def tableInsert (before : String) : Parse (Statement × String) := do
  let table ← path
  let (columns, partition, source) ← do
    if ← keywords ["DEFAULT", "VALUES"] then pure ([], "", none)
    else
      let columns ← namesIfAny
      let partition ← do
        if ← keyword "PARTITION" then
          pure ("PARTITION (" ++ Expr.listText (← parenthesized g.expressions) ++ ") ")
        else pure ""
      pure (columns, partition, some (← g.query))
  let rowAlias ← afterKeyword "AS" do
    let n ← path
    let columns ← namesIfAny
    return "AS " ++ pathText n ++
      (if columns.isEmpty then "" else " (" ++ commaText (columns.map Name.text) ++ ")")
  let conflict ← afterKeyword "ON" (conflictClause g)
  let returning ← returningClause g
  let columnText := if columns.isEmpty then "" else "(" ++ commaText (columns.map Name.text) ++ ") "
  let rows := match source with
    | some q => q.text
    | none => "DEFAULT VALUES"
  return (.insert ⟨table, columns, source⟩, before ++ " " ++ pathText table ++ " " ++ columnText ++
    partition ++ rows ++ spaced rowAlias ++ conflict.getD "" ++ returning)

/-- **An INSERT**, behind the word, and its canonical text. An insertion into a directory is no
insertion into a table. -/
def insertStatement : Parse (Statement × String) := do
  let priority ← keywordOf ["LOW_PRIORITY", "DELAYED", "HIGH_PRIORITY"]
  let ignore ← keywordOf ["IGNORE"]
  let action ← keywordOf ["INTO", "OVERWRITE"]
  let isLocal ← keywordOf ["LOCAL"]
  if ← keyword "DIRECTORY" then
    let overwrite := action.filter (· = "OVERWRITE")
    directoryInsert g ("INSERT" ++ spaced overwrite ++ spaced isLocal)
  else
    let table ← keywordOf ["TABLE"]
    tableInsert g ("INSERT" ++ spaced priority ++ spaced ignore ++ spaced action ++ spaced table)

/-! ### Updates and removals -/

/-- **An UPDATE**, behind the word, and its canonical text. -/
def updateStatement : Parse (Statement × String) := do
  let table ← joinedSource g
  expectKeyword "SET"
  let assignments ← commaSeparated (assignment g)
  let from? ← afterKeyword "FROM" (joinedSource g)
  let selection ← afterKeyword "WHERE" g.expression
  let returning ← returningClause g
  return (.update ⟨table, assignments, from?, selection⟩, "UPDATE " ++ table.text ++ " SET " ++
    assignmentsText assignments ++ spaced (from?.map ("FROM " ++ ·.text)) ++
    clauseText "WHERE" selection ++ returning)

/-- **A DELETE**, behind the word. -/
def deleteStatement : Parse Statement := do
  let _ ← keyword "FROM"
  let tables ← commaSeparated (joinedSource g)
  let others ← afterKeyword "USING" (commaSeparated (joinedSource g))
  let selection ← afterKeyword "WHERE" g.expression
  let _ ← returningClause g
  let order ← orderItems g
  let limit ← if ← keyword "LIMIT" then limitValue g else pure none
  return .delete ⟨tables, others, selection, order, limit⟩

/-! ### Merges -/

/-- What a merge does with a row: an insertion serves rows that only the other source has, an update
or a removal all others. -/
def mergeAction (inserts : Bool) : Parse Unit := do
  if inserts then
    expectKeyword "INSERT"
    let _ ← namesIfAny
    if ← keyword "ROW" then return ()
    else
      expectKeyword "VALUES"
      let _ ← valueRows g
  else if ← keyword "DELETE" then return ()
  else
    expectKeywords ["UPDATE", "SET"]
    let _ ← commaSeparated (assignment g)

/-- One case of a merge, if the statement goes on. -/
def mergeCase : Parse (Option Unit) := do
  if (← ahead).isEmpty || (← atSymbol ";") then return none
  else
    expectKeyword "WHEN"
    let unmatched ← keyword "NOT"
    expectKeyword "MATCHED"
    let side ← if unmatched then firstOf [["BY", "SOURCE"], ["BY", "TARGET"]] else pure none
    let _ ← afterKeyword "AND" g.expression
    expectKeyword "THEN"
    mergeAction g (unmatched && side ≠ some "BY SOURCE")
    return some ()

/-- **A MERGE**, behind the word. -/
def mergeStatement : Parse Unit := do
  let _ ← keyword "INTO"
  let _ ← source g ((← ahead).length + 1)
  expectKeyword "USING"
  let _ ← source g ((← ahead).length + 1)
  expectKeyword "ON"
  let _ ← g.expression
  let _ ← repeated (mergeCase g)

/-! ### Queries and changes alike -/

/-- **A query**: its common tables, then its clauses or a change of rows. -/
def queryStatement : Parse Query := do
  let with? ← afterKeyword "WITH" (withClause g)
  if ← keyword "INSERT" then return .ofBody with? (.other (← insertStatement g).2)
  else if ← keyword "UPDATE" then return .ofBody with? (.other (← updateStatement g).2)
  else queryClauses g with?

end Pushdown.Sql
