import Pushdown.Sql.Alteration

/-!
# Reading statements on a database

Questions about what is there, rights, and the care of tables and logs. The engine refuses all of
them. They are read as strictly as they are written down in the grammar of such statements, and no
more strictly: a question about a variable takes any words, and a list of logs or tables may end in
one token that belongs to nothing.
-/

namespace Pushdown.Sql

open Parse

variable (g : Grammar)

/-! ### Questions -/

/-- What an answer is narrowed to, if it is. -/
def answerFilter : Parse Unit := do
  if (← keywordOf ["LIKE", "ILIKE"]).isSome then
    let _ ← textLiteral
  else
    let _ ← afterKeyword "WHERE" g.expression

/-- Where something is looked for, if that is said. -/
def answerPlace : Parse Unit := do
  if (← keywordOf ["FROM", "IN"]).isSome then
    let _ ← name

/-- A question about the columns of a table. -/
def columnsQuestion : Parse Unit := do
  let _ ← expectKeywordOf ["FROM", "IN"]
  let _ ← path
  answerPlace
  answerFilter g

/-- A question about a definition. -/
def definitionQuestion : Parse Unit := do
  let _ ← expectKeywordOf ["TABLE", "TRIGGER", "FUNCTION", "PROCEDURE", "EVENT", "VIEW"]
  let _ ← path

/-- Takes everything up to an equals sign, semicolons included. -/
def variableQuestion : Parse Unit := do
  set ((← ahead).dropWhile fun t => t != .symbol "=")

/-- **A question**, behind `SHOW`. Only columns and tables have more details to show. -/
def showStatement : Parse Unit := do
  let extended ← keyword "EXTENDED"
  let full ← keyword "FULL"
  let _ ← keyword "SESSION"
  let _ ← keyword "GLOBAL"
  let plain := if extended || full then [] else ["CREATE", "COLLATION", "VARIABLES", "STATUS"]
  match ← keywordOf (["COLUMNS", "FIELDS", "TABLES", "FUNCTIONS"] ++ plain) with
  | some k =>
    if k = "COLUMNS" ∨ k = "FIELDS" then columnsQuestion g
    else if k = "CREATE" then definitionQuestion
    else
      if k = "TABLES" then answerPlace
      answerFilter g
  | none =>
    if extended || full then fail "columns or tables" else variableQuestion

/-- **A description** of a statement or of a table. A statement that does not read as one is taken
for the name of a table; a description of a description is none. -/
def describeStatement : Parse Unit := do
  let _ ← keyword "ANALYZE"
  let _ ← keyword "VERBOSE"
  if ← keyword "FORMAT" then
    let _ ← expectKeywordOf ["TEXT", "GRAPHVIZ", "JSON"]
  match ← attempt g.statement with
  | some (.other k) =>
    if k ∈ ["EXPLAIN", "DESCRIBE", "DESC"] then fail "a statement that is not a description"
    else return ()
  | some _ => return ()
  | none =>
    let _ ← keywordOf ["EXTENDED", "FORMATTED"]
    let _ ← path

/-! ### Rights -/

/-- A right, by the columns that it covers if it can be divided by columns. -/
def privilege : Parse Unit := do
  let k ← expectKeywordOf ["CONNECT", "CREATE", "DELETE", "EXECUTE", "INSERT", "REFERENCES",
    "SELECT", "TEMPORARY", "TRIGGER", "TRUNCATE", "UPDATE", "USAGE"]
  if k ∈ ["INSERT", "REFERENCES", "SELECT", "UPDATE"] then
    let _ ← namesIfAny

/-- Rights, and what they are rights to. -/
def privileges : Parse Unit := do
  if ← keyword "ALL" then
    let _ ← keyword "PRIVILEGES"
  else
    let _ ← commaSeparated privilege
  expectKeyword "ON"
  let _ ← firstOf [["ALL", "TABLES", "IN", "SCHEMA"], ["ALL", "SEQUENCES", "IN", "SCHEMA"],
    ["SEQUENCE"], ["SCHEMA"], ["TABLE"]]
  let _ ← commaSeparated path

/-- Who gives rights or takes them, if that is said. -/
def grantor : Parse Unit := do
  if ← keywords ["GRANTED", "BY"] then
    let _ ← name

/-- Rights that are given, behind `GRANT`. -/
def grantStatement : Parse Unit := do
  privileges
  expectKeyword "TO"
  let _ ← commaSeparated name
  let _ ← keywords ["WITH", "GRANT", "OPTION"]
  grantor

/-- Rights that are taken, behind `REVOKE`. -/
def revokeStatement : Parse Unit := do
  privileges
  expectKeyword "FROM"
  let _ ← commaSeparated name
  grantor
  let cascade ← keyword "CASCADE"
  let restrict ← keyword "RESTRICT"
  if cascade && restrict then fail "CASCADE or RESTRICT alone" else return ()

/-! ### Logs and caches -/

/-- The tables that are flushed and how, up to a token that is no word and is taken too. -/
def flushedTables : (allowance : Nat) → Parse Unit
  | 0 => return ()
  | allowance + 1 => do
    match ← ahead with
    | [] => return ()
    | t :: rest =>
      match t with
      | .word _ k =>
        if k ∈ keywordTable then
          set rest
          if k = "WITH" then
            let _ ← keywords ["READ", "LOCK"]
          else if k = "FOR" then
            let _ ← keyword "EXPORT"
        else
          let _ ← commaSeparated path
        flushedTables allowance
      | _ => set rest

/-- What is flushed, behind `FLUSH`. -/
def flushStatement : Parse Unit := do
  let _ ← keywordOf ["NO_WRITE_TO_BINLOG", "LOCAL"]
  match ← expectFirstOf [["BINARY", "LOGS"], ["ENGINE", "LOGS"], ["ERROR", "LOGS"],
      ["GENERAL", "LOGS"], ["HOSTS"], ["PRIVILEGES"], ["OPTIMIZER_COSTS"], ["RELAY", "LOGS"],
      ["SLOW", "LOGS"], ["STATUS"], ["USER_RESOURCES"], ["LOGS"], ["TABLES"]] with
  | "RELAY LOGS" =>
    if ← keywords ["FOR", "CHANNEL"] then
      let _ ← path
  | "TABLES" => flushedTables ((← ahead).length + 1)
  | _ => return ()

/-- What a cached table holds, if it is said: options, and a query that may follow a word. -/
def cachedContent : Parse Unit := do
  let _ ← settingsAfter g ["OPTIONS"]
  match ← ahead with
  | [] => return ()
  | .word .. :: _ =>
    let _ ← keyword "AS"
    let _ ← g.query
  | _ => fail "a query"

/-- A table that is cached, behind `CACHE`. -/
def cacheStatement : Parse Unit := do
  if !(← keyword "TABLE") then
    let _ ← path
    expectKeyword "TABLE"
  let _ ← path
  cachedContent g

/-- A table that is cached no more, behind `UNCACHE`. -/
def uncacheStatement : Parse Unit := do
  expectKeyword "TABLE"
  let _ ← keywords ["IF", "EXISTS"]
  let _ ← path

/-! ### Care of tables -/

/-- A table that is emptied, behind `TRUNCATE`. -/
def truncateStatement : Parse Unit := do
  let _ ← keyword "TABLE"
  let _ ← path
  let _ ← afterKeyword "PARTITION" (partitionValues g)
  onCluster

/-- What an analysis is to cover, if more is said. -/
def analysisPart : Parse (Option Unit) := do
  match ← keywordOf ["PARTITION", "NOSCAN", "FOR", "CACHE", "COMPUTE"] with
  | none => return none
  | some k =>
    if k = "PARTITION" then partitionValues g
    else if k = "FOR" then
      expectKeyword "COLUMNS"
      let _ ← attempt (commaSeparated name)
    else if k = "CACHE" then expectKeyword "METADATA"
    else if k = "COMPUTE" then expectKeyword "STATISTICS"
    return some ()

/-- A table that is analysed, behind `ANALYZE`. -/
def analyzeStatement : Parse Unit := do
  expectKeyword "TABLE"
  let _ ← path
  let _ ← repeated (analysisPart g)

/-- A table that is tidied up, behind `OPTIMIZE`. -/
def optimizeStatement : Parse Unit := do
  expectKeyword "TABLE"
  let _ ← path
  onCluster
  if ← keyword "PARTITION" then
    if ← keyword "ID" then
      let _ ← name
    else
      let _ ← g.expression
  let _ ← keyword "FINAL"
  if ← keyword "DEDUPLICATE" then
    let _ ← afterKeyword "BY" g.expression

/-- Which way the parts of a table are brought up to date. -/
def partsRepair : Parse Unit := do
  let _ ← keywordOf ["ADD", "DROP", "SYNC"]
  expectKeyword "PARTITIONS"

/-- A table whose parts are looked through, behind `MSCK`. -/
def repairStatement : Parse Unit := do
  let _ ← keyword "REPAIR"
  expectKeyword "TABLE"
  let _ ← path
  let _ ← attempt partsRepair

/-! ### The server and its parts -/

/-- A database that is taken in, behind `ATTACH`. -/
def attachStatement : Parse Unit := do
  let _ ← keyword "DATABASE"
  let _ ← g.expression
  expectKeyword "AS"
  let _ ← name

/-- A database that is let go, behind `DETACH`. -/
def detachStatement : Parse Unit := do
  let _ ← keyword "DATABASE"
  let _ ← keywords ["IF", "EXISTS"]
  let _ ← name

/-- A connection that is cut, behind `KILL`. -/
def killStatement : Parse Unit := do
  let _ ← keywordOf ["CONNECTION", "QUERY", "MUTATION"]
  let _ ← natural

/-- A value of an internal setting: a text, a number or a place left open. -/
def pragmaValue : Parse Unit := do
  match ← ahead with
  | .quoted _ :: rest => set rest
  | .word ⟨_, some '"'⟩ _ :: rest => set rest
  | _ =>
    let _ ← quantity

/-- An internal setting, behind `PRAGMA`. -/
def pragmaStatement : Parse Unit := do
  let _ ← path
  if ← atSymbol "(" then parenthesized pragmaValue
  else if ← symbol "=" then pragmaValue

/-- A procedure that is called, behind `CALL`. -/
def callStatement : Parse Unit := do
  let parts ← path
  if ← atSymbol "(" then
    let _ ← functionCall g parts

end Pushdown.Sql
