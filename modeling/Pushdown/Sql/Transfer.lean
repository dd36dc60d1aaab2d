import Pushdown.Sql.Query

/-!
# Reading transfers of rows

`COPY` and `UNLOAD` move rows between a table and a file. The engine moves none, so these readers
too only tell statements from other texts. A copy may bring its rows along: behind the semicolon
follows everything up to the mark of their end.
-/

namespace Pushdown.Sql

open Parse

variable (g : Grammar)

/-! ### Options of a copy -/

/-- A text of one byte. -/
def byteLiteral : Parse Unit := do
  if (← textLiteral).utf8ByteSize = 1 then return () else fail "a char"

/-- An option of a copy in parentheses. -/
def copyOption : Parse Unit := do
  let k ← expectKeywordOf ["FORMAT", "FREEZE", "DELIMITER", "NULL", "HEADER", "QUOTE", "ESCAPE",
    "FORCE_QUOTE", "FORCE_NOT_NULL", "FORCE_NULL", "ENCODING"]
  if k = "FORMAT" then
    let _ ← name
  else if k = "FREEZE" ∨ k = "HEADER" then
    let _ ← keywordOf ["TRUE", "FALSE"]
  else if k = "DELIMITER" ∨ k = "QUOTE" ∨ k = "ESCAPE" then byteLiteral
  else if k = "NULL" ∨ k = "ENCODING" then
    let _ ← textLiteral
  else
    let _ ← names

/-- An option on the columns of a file, in the older form. -/
def looseFileOption : Parse Unit := do
  match ← expectFirstOf [["HEADER"], ["QUOTE"], ["ESCAPE"], ["FORCE", "NOT", "NULL"],
      ["FORCE", "QUOTE"]] with
  | "HEADER" => return ()
  | "FORCE NOT NULL" =>
    let _ ← commaSeparated name
  | "FORCE QUOTE" =>
    let _ ← commaSeparated name
  | _ =>
    let _ ← keyword "AS"
    byteLiteral

/-- An option of a copy in the older form, without parentheses. -/
def looseCopyOption : Parse Unit := do
  match ← expectKeywordOf ["BINARY", "DELIMITER", "NULL", "CSV"] with
  | "BINARY" => return ()
  | "DELIMITER" =>
    let _ ← keyword "AS"
    byteLiteral
  | "NULL" =>
    let _ ← keyword "AS"
    let _ ← textLiteral
  | _ =>
    let _ ← repeated (attempt looseFileOption)

/-! ### Copies -/

/-- What lies behind the rows that stand in the text: they end with a backslash and a point. -/
def behindRows : List Token → List Token
  | [] => []
  | [_] => []
  | t :: u :: rest =>
    if t = .symbol "\\" then
      if u = .symbol "." then rest else behindRows rest
    else behindRows (u :: rest)

/-- Where the rows come from or go to; whether they stand in the text. -/
def copyTarget : Parse Bool := do
  if ← keyword "STDIN" then return true
  else
    if !(← keyword "STDOUT") then
      let _ ← keyword "PROGRAM"
      let _ ← textLiteral
    return false

/-- **A copy**, behind `COPY`. The rows of a query can only be copied into a file. -/
def copyStatement : Parse Unit := do
  let queried ← atSymbol "("
  if queried then
    let _ ← parenthesized g.query
  else
    let _ ← path
    let _ ← namesIfAny
  let _ ← expectKeywordOf (if queried then ["TO"] else ["FROM", "TO"])
  let inText ← copyTarget
  let _ ← keyword "WITH"
  if ← atSymbol "(" then
    let _ ← parenthesized (commaSeparated copyOption)
  let _ ← repeated (attempt looseCopyOption)
  if inText then
    expectSymbol ";"
    set (behindRows (← ahead))

/-- **A query whose rows are unloaded**, behind `UNLOAD`, by its text. -/
def unloadStatement : Parse String := do
  let q ← parenthesized g.query
  expectKeyword "TO"
  let _ ← name
  let _ ← settingsAfter g ["WITH"]
  return q.text

end Pushdown.Sql
