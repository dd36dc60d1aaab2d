import Pushdown.Sql.Definition

/-!
# Reading alterations and removals

`ALTER` and `DROP`. Like definitions they are refused by the engine and are read clause by clause
only to tell them from texts that mean nothing. A role can neither be altered nor dropped with a
word about what depends on it.
-/

namespace Pushdown.Sql

open Parse

variable (g : Grammar)

/-! ### Pieces of alterations -/

/-- The values that tell one part of a table from the others, behind `PARTITION`. -/
def partitionValues : Parse Unit := do
  let _ ← parenthesized g.expressions

/-- A part of a table, named by its file or by its values. -/
def partOrPartition : Parse Unit := do
  let _ ← expectKeywordOf ["PART", "PARTITION"]
  let _ ← g.expression

/-- A part whose backup may be named. -/
def namedPart : Parse Unit := do
  partOrPartition g
  if ← keyword "WITH" then
    expectKeyword "NAME"
    let _ ← name

/-- Where a column stands, if that is said. -/
def columnPosition : Parse Unit := do
  if ← keyword "FIRST" then return ()
  else
    let _ ← afterKeyword "AFTER" name

/-- The type of a column, its options and its place. -/
def columnChange : Parse Unit := do
  let _ ← g.dataType
  let _ ← repeated (columnOption g)
  columnPosition

/-! ### Operations on a table -/

/-- What is added to a table, behind `ADD`. -/
def addition : Parse Unit := do
  if ← tableConstraint g then return ()
  else
    let _ ← unlessExists
    let parts ← repeated (afterKeyword "PARTITION" (partitionValues g))
    if parts.isEmpty then
      let _ ← keyword "COLUMN"
      let _ ← unlessExists
      let _ ← columnDefinition g
      columnPosition

/-- What is given another name, behind `RENAME`. -/
def nameChange : Parse Unit := do
  if ← keyword "TO" then
    let _ ← path
  else
    let _ ← keyword "COLUMN"
    let _ ← name
    expectKeyword "TO"
    let _ ← name

/-- What is switched off, behind `DISABLE`. -/
def disabling : Parse Unit := do
  let what ← expectFirstOf [["ROW", "LEVEL", "SECURITY"], ["RULE"], ["TRIGGER"]]
  if what = "RULE" ∨ what = "TRIGGER" then
    let _ ← name

/-- What is switched on, behind `ENABLE`. -/
def enabling : Parse Unit := do
  let what ← expectFirstOf [["ALWAYS", "RULE"], ["ALWAYS", "TRIGGER"], ["ROW", "LEVEL", "SECURITY"],
    ["REPLICA", "RULE"], ["REPLICA", "TRIGGER"], ["RULE"], ["TRIGGER"]]
  if what ≠ "ROW LEVEL SECURITY" then
    let _ ← name

/-- What is taken out of a table, behind `DROP`. -/
def columnRemoval : Parse Unit := do
  if (← firstOf [["IF", "EXISTS", "PARTITION"], ["PARTITION"]]).isSome then partitionValues g
  else if ← keywords ["PRIMARY", "KEY"] then return ()
  else
    let _ ← keywordOf ["CONSTRAINT", "COLUMN"]
    let _ ← keywords ["IF", "EXISTS"]
    let _ ← name
    let _ ← keyword "CASCADE"

/-- How a column is altered, behind its name. -/
def columnAlteration : Parse Unit := do
  match ← firstOf [["SET", "NOT", "NULL"], ["DROP", "NOT", "NULL"], ["SET", "DEFAULT"],
      ["DROP", "DEFAULT"], ["SET", "DATA", "TYPE"], ["ADD", "GENERATED"]] with
  | some "SET DEFAULT" =>
    let _ ← g.expression
  | some "SET DATA TYPE" =>
    let _ ← g.dataType
  | some "ADD GENERATED" =>
    let _ ← firstOf [["ALWAYS"], ["BY", "DEFAULT"]]
    expectKeywords ["AS", "IDENTITY"]
    if ← atSymbol "(" then
      let _ ← parenthesized sequenceOptions
  | some _ => return ()
  | none => fail "SET or DROP, or a data type, after ALTER COLUMN"

/-- **An operation on a table.** -/
def tableOperation : Parse Unit := do
  if ← keyword "ADD" then addition g
  else if ← keyword "RENAME" then nameChange
  else if ← keyword "DISABLE" then disabling
  else if ← keyword "ENABLE" then enabling
  else if ← keyword "DROP" then columnRemoval g
  else if ← keyword "PARTITION" then
    partitionValues g
    expectKeywords ["RENAME", "TO", "PARTITION"]
    partitionValues g
  else if ← keyword "CHANGE" then
    let _ ← keyword "COLUMN"
    let _ ← name
    let _ ← name
    columnChange g
  else if ← keyword "MODIFY" then
    let _ ← keyword "COLUMN"
    let _ ← name
    columnChange g
  else if ← keyword "ALTER" then
    let _ ← keyword "COLUMN"
    let _ ← name
    columnAlteration g
  else if ← keyword "SWAP" then
    expectKeyword "WITH"
    let _ ← path
  else if ← keywords ["OWNER", "TO"] then
    let _ ← name
  else if (← keywordOf ["ATTACH", "DETACH"]).isSome then partOrPartition g
  else if (← keywordOf ["FREEZE", "UNFREEZE"]).isSome then namedPart g
  else if ← keywords ["SET", "TBLPROPERTIES"] then
    let _ ← settingList g
  else fail "an operation on the table"

/-! ### Alterations -/

/-- Where the rows of a table are to lie, if that is said. -/
def tableLocation : Parse Unit := do
  if ← keyword "LOCATION" then
    let _ ← name
  else if ← keywords ["SET", "LOCATION"] then
    let _ ← name

/-- **An alteration**, behind `ALTER`. -/
def alterStatement : Parse Unit := do
  match ← expectKeywordOf ["VIEW", "TABLE", "INDEX", "ROLE"] with
  | "VIEW" =>
    let _ ← path
    let _ ← namesIfAny
    let _ ← settingsAfter g ["WITH"]
    expectKeyword "AS"
    let _ ← g.query
  | "TABLE" =>
    let _ ← keywords ["IF", "EXISTS"]
    let _ ← keyword "ONLY"
    let _ ← path
    onCluster
    let _ ← commaSeparated (tableOperation g)
    tableLocation
  | "INDEX" =>
    let _ ← path
    expectKeywords ["RENAME", "TO"]
    let _ ← path
  | _ => fail "a role that can be altered"

/-! ### Removals -/

/-- What happens to things that depend on what is dropped, if that is said. -/
def dependents : Parse Unit := do
  let _ ← keywordOf ["CASCADE", "RESTRICT"]

/-- What can be dropped by name alone. -/
def droppable : List (List String) :=
  [["TABLE"], ["VIEW"], ["INDEX"], ["ROLE"], ["SCHEMA"], ["SEQUENCE"], ["STAGE"]]

/-- Things that are dropped by name; `role` says that they are roles. -/
def namedRemoval (role : Bool) : Parse Unit := do
  let _ ← keywords ["IF", "EXISTS"]
  let _ ← commaSeparated path
  let cascade ← keyword "CASCADE"
  let restrict ← keyword "RESTRICT"
  let purge ← keyword "PURGE"
  if cascade && restrict then fail "CASCADE or RESTRICT alone"
  else if role && (cascade || restrict || purge) then fail "a role alone"
  else return ()

/-- **A removal**, behind `DROP`. -/
def dropStatement : Parse Unit := do
  let _ ← keyword "TEMPORARY"
  match ← firstOf droppable with
  | some what => namedRemoval (what = "ROLE")
  | none =>
    match ← expectKeywordOf ["FUNCTION", "PROCEDURE", "SECRET", "TRIGGER"] with
    | "SECRET" =>
      let _ ← keywords ["IF", "EXISTS"]
      let _ ← name
      if ← keyword "FROM" then
        let _ ← nameOrAny
    | "TRIGGER" =>
      let _ ← keywords ["IF", "EXISTS"]
      let _ ← path
      expectKeyword "ON"
      let _ ← path
      dependents
    | _ =>
      let _ ← keywords ["IF", "EXISTS"]
      let _ ← commaSeparated (functionReference g)
      dependents

end Pushdown.Sql
