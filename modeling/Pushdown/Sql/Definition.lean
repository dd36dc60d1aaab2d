import Pushdown.Sql.Change

/-!
# Reading definitions

`CREATE` in all its forms. The engine defines nothing, so a definition is refused whatever it says;
but only a text that is one is refused for that reason. So each form is read clause by clause, in
the order in which its clauses may stand, and gives no result.

In a few places a name may be left out or may be anything at all, and then one token is passed over
in its stead.
-/

namespace Pushdown.Sql

open Parse

variable (g : Grammar)

/-! ### Pieces of several definitions -/

/-- Takes one token if there is any, and says whether it is a name. -/
def nameOrAny : Parse Bool := do
  match ← ahead with
  | [] => return false
  | t :: rest => do
    set rest
    match t with
    | .word .. => return true
    | .quoted _ => return true
    | _ => return false

/-- Takes a name of several parts as far as it goes, with the token at which it ends in disorder. -/
def pathOrAny : (allowance : Nat) → Parse Unit
  | 0 => return ()
  | allowance + 1 => do
    if ← nameOrAny then
      if ← symbol "." then pathOrAny allowance else return ()
    else return ()

/-- Takes something like a name of several parts behind a word, if the word is ahead. -/
def loosePathAfter (word : String) : Parse Unit := do
  if ← keyword word then pathOrAny ((← ahead).length + 1) else return ()

/-- `IF NOT EXISTS`, if it is ahead. -/
def unlessExists : Parse Bool := keywords ["IF", "NOT", "EXISTS"]

/-- The cluster that a definition concerns, if it is named. -/
def onCluster : Parse Unit := do
  if ← keywords ["ON", "CLUSTER"] then
    let _ ← name

/-- A comment in plain quotes. -/
def commentText : Parse Unit := do
  match ← next "a comment" with
  | .quoted _ => return ()
  | _ => fail "a comment"

/-- Takes one word, whatever it is. -/
def anyWord : Parse Unit := do
  match ← next "identifier" with
  | .word .. => return ()
  | _ => fail "identifier"

/-- An item list in parentheses whose last comma may lead nowhere, behind the opening one; `item`
reads one item. -/
def looseItems (item : Parse Unit) : (allowance : Nat) → Parse Unit
  | 0 => fail ")"
  | allowance + 1 => do
    item
    let divided ← symbol ","
    if ← symbol ")" then return ()
    else if divided then looseItems item allowance
    else fail "',' or ')'"

/-! ### Storage -/

/-- How rows are divided into fields, as far as the allowance goes. -/
def rowDelimiters : (allowance : Nat) → Parse Unit
  | 0 => return ()
  | allowance + 1 => do
    match ← keywordOf ["FIELDS", "COLLECTION", "MAP", "LINES", "NULL"] with
    | none => return ()
    | some k =>
      let words := match k with
        | "COLLECTION" => ["ITEMS", "TERMINATED", "BY"]
        | "MAP" => ["KEYS", "TERMINATED", "BY"]
        | "NULL" => ["DEFINED", "AS"]
        | _ => ["TERMINATED", "BY"]
      if ← keywords words then
        let _ ← name
        if k = "FIELDS" then
          if ← keywords ["ESCAPED", "BY"] then
            let _ ← name
        rowDelimiters allowance
      else return ()

/-- Where and in which form rows are stored, clause by clause, as far as the allowance goes. -/
def storageClauses : (allowance : Nat) → Parse Unit
  | 0 => return ()
  | allowance + 1 => do
    if ← keyword "ROW" then
      expectKeyword "FORMAT"
      if ← keyword "SERDE" then
        let _ ← textLiteral
      else
        let _ ← keyword "DELIMITED"
        rowDelimiters ((← ahead).length + 1)
      storageClauses allowance
    else if ← keyword "STORED" then
      expectKeyword "AS"
      if ← keyword "INPUTFORMAT" then
        let _ ← g.expression
        expectKeyword "OUTPUTFORMAT"
        let _ ← g.expression
      else
        let _ ← expectKeywordOf fileFormats
      storageClauses allowance
    else if ← keyword "LOCATION" then
      let _ ← textLiteral
      storageClauses allowance
    else if ← keywords ["WITH", "SERDEPROPERTIES"] then
      let _ ← settingList g
      storageClauses allowance
    else return ()

/-- The columns that divide a table into parts, if they are given. -/
def partitionColumns : Parse Unit := do
  if ← keywords ["PARTITIONED", "BY"] then
    let _ ← parenthesized (commaSeparated (columnDefinition g))

/-- The columns and constraints of a table in parentheses, if they are given. -/
def tableColumns : Parse Unit := do
  match ← ahead with
  | .symbol "(" :: .symbol ")" :: rest => set rest
  | .symbol "(" :: _ =>
    let _ ← parenthesized do
      commaSeparated do
        if ← tableConstraint g then return ()
        else
          match ← ahead with
          | .word .. :: _ => do
            let _ ← columnDefinition g
            return ()
          | _ => fail "column name or constraint definition"
  | _ => return ()

/-! ### Tables and views -/

/-- The clauses of a table behind its columns that concern its engine and its order. -/
def engineClauses : Parse Unit := do
  if ← keyword "ENGINE" then
    expectSymbol "="
    anyWord
    let _ ← namesIfAny
  if ← keyword "AUTO_INCREMENT" then
    let _ ← symbol "="
    let _ ← smallNatural
  if ← keywords ["PRIMARY", "KEY"] then
    let _ ← g.expression
  if ← keywords ["ORDER", "BY"] then
    if ← symbol "(" then
      if !(← atSymbol ")") then
        let _ ← g.expressions
      expectSymbol ")"
    else
      let _ ← g.expression
  if ← keywords ["PARTITION", "BY"] then
    let _ ← g.expression
  if ← keywords ["CLUSTER", "BY"] then
    let _ ← commaSeparated name
  let _ ← settingsAfter g ["OPTIONS"]

/-- The clauses of a table that stand last. -/
def closingClauses : Parse Unit := do
  if ← keywords ["DEFAULT", "CHARSET"] then
    expectSymbol "="
    anyWord
  if ← keyword "COLLATE" then
    expectSymbol "="
    anyWord
  if ← keywords ["ON", "COMMIT"] then
    let _ ← expectFirstOf [["DELETE", "ROWS"], ["PRESERVE", "ROWS"], ["DROP"]]
  let _ ← keyword "STRICT"
  if ← keyword "COMMENT" then
    let _ ← symbol "="
    commentText
  let _ ← afterKeyword "AS" g.query

/-- **A table**, behind the word. -/
def tableDefinition : Parse Unit := do
  let _ ← unlessExists
  let _ ← path
  onCluster
  if ← atKeyword ["LIKE", "ILIKE"] then
    let _ ← next "LIKE"
    pathOrAny ((← ahead).length + 1)
  loosePathAfter "CLONE"
  tableColumns g
  let _ ← keywords ["WITHOUT", "ROWID"]
  partitionColumns g
  storageClauses g ((← ahead).length + 1)
  let _ ← settingsAfter g ["WITH"]
  let _ ← settingsAfter g ["TBLPROPERTIES"]
  engineClauses g
  closingClauses g

/-- A table whose rows lie outside, behind the words. -/
def externalTable : Parse Unit := do
  let _ ← unlessExists
  let _ ← path
  tableColumns g
  partitionColumns g
  storageClauses g ((← ahead).length + 1)
  let _ ← settingsAfter g ["TBLPROPERTIES"]

/-- A column of a view, which may have options or a comment. -/
def viewColumn : Parse Unit := do
  let _ ← name
  if ← atKeyword ["OPTIONS", "COMMENT"] then
    let _ ← columnOption g

/-- **A view**, behind the word. -/
def viewDefinition : Parse Unit := do
  let _ ← unlessExists
  let _ ← path
  match ← ahead with
  | .symbol "(" :: .symbol ")" :: rest => set rest
  | .symbol "(" :: _ =>
    let _ ← parenthesized (commaSeparated (viewColumn g))
  | _ => pure ()
  let _ ← settingsAfter g ["WITH"]
  if ← keyword "CLUSTER" then
    expectKeyword "BY"
    let _ ← namesIfAny
  let _ ← settingsAfter g ["OPTIONS"]
  let _ ← afterKeyword "TO" path
  if ← keyword "COMMENT" then
    expectSymbol "="
    commentText
  expectKeyword "AS"
  let _ ← g.query
  let _ ← keywords ["WITH", "NO", "SCHEMA", "BINDING"]

/-- A table that a module provides, behind the words. -/
def virtualTable : Parse Unit := do
  let _ ← unlessExists
  let _ ← path
  expectKeyword "USING"
  let _ ← name
  let _ ← namesIfAny

/-- An index, behind the word. -/
def indexDefinition : Parse Unit := do
  let _ ← keyword "CONCURRENTLY"
  let named ← unlessExists
  let anonymous ← if named then pure false else keyword "ON"
  if !anonymous then
    let _ ← path
    expectKeyword "ON"
  let _ ← path
  let _ ← afterKeyword "USING" name
  let _ ← parenthesized (commaSeparated (orderItem g))
  let _ ← afterKeyword "INCLUDE" names
  if ← keyword "NULLS" then
    let _ ← keyword "NOT"
    expectKeyword "DISTINCT"
  let _ ← whereClause g

/-! ### Functions and procedures -/

/-- An argument of a function: its direction, its name, its type and its default. -/
def argumentDefinition : Parse Unit := do
  let _ ← keywordOf ["IN", "OUT", "INOUT"]
  -- a type of the user's own is taken for the name of the argument
  if (← g.dataType).kind = .custom then
    let _ ← g.dataType
  if (← keyword "DEFAULT") then
    let _ ← g.expression
  else if (← symbol "=") then
    let _ ← g.expression

/-- Arguments of a function in parentheses; there may be none. -/
def argumentDefinitions : Parse Unit := do
  expectSymbol "("
  if ← symbol ")" then return ()
  else
    let _ ← commaSeparated (argumentDefinition g)
    expectSymbol ")"

/-- What a clause of a function says something about. -/
inductive FunctionAspect where
  /-- What the function computes. -/
  | body
  /-- The language it is written in. -/
  | language
  /-- Whether its result may change. -/
  | behavior
  /-- What it does with nulls. -/
  | nulls
  /-- Whether it may run beside itself. -/
  | parallel
  deriving DecidableEq

/-- One clause of a function, if one is ahead, by what it speaks of. -/
def functionClause : Parse (Option FunctionAspect) := do
  if ← keyword "AS" then
    match ← ahead with
    | .literal (.dollar _) _ :: rest => set rest
    | _ =>
      let _ ← textLiteral
    return some .body
  else if ← keyword "RETURN" then
    let _ ← g.expression
    return some .body
  else if ← keyword "LANGUAGE" then
    let _ ← name
    return some .language
  else if (← keywordOf ["IMMUTABLE", "STABLE", "VOLATILE"]).isSome then return some .behavior
  else if (← firstOf [["CALLED", "ON", "NULL", "INPUT"], ["RETURNS", "NULL", "ON", "NULL", "INPUT"],
      ["STRICT"]]).isSome then return some .nulls
  else if ← keyword "PARALLEL" then
    let _ ← expectKeywordOf ["UNSAFE", "RESTRICTED", "SAFE"]
    return some .parallel
  else return none

/-- The clauses of a function in any order, each aspect at most once, as far as the allowance
goes. -/
def functionClauses : (allowance : Nat) → (seen : List FunctionAspect) → Parse Unit
  | 0, _ => return ()
  | allowance + 1, seen => do
    match ← functionClause g with
    | none => return ()
    | some aspect =>
      if aspect ∈ seen then fail "a clause that is not given yet"
      else functionClauses allowance (aspect :: seen)

/-- **A function**, behind the word. -/
def functionDefinition : Parse Unit := do
  let _ ← path
  argumentDefinitions g
  let _ ← afterKeyword "RETURNS" g.dataType
  functionClauses g ((← ahead).length + 1) []

/-- A function by its name, with the types of its arguments if they are given. -/
def functionReference : Parse Unit := do
  let _ ← path
  if ← atSymbol "(" then argumentDefinitions g

/-- A macro, behind the word. -/
def macroDefinition : Parse Unit := do
  let _ ← path
  expectSymbol "("
  if !(← atSymbol ")") then
    let _ ← commaSeparated do
      let _ ← name
      match ← ahead with
      | .symbol ":=" :: rest => do
        set rest
        let _ ← g.expression
      | .symbol "=>" :: rest => do
        set rest
        let _ ← g.expression
      | _ => pure ()
  expectSymbol ")"
  expectKeyword "AS"
  if ← keyword "TABLE" then
    let _ ← g.query
  else
    let _ ← g.expression

/-- **The statements ahead**, divided by semicolons. Where a semicolon is due, `END` ends them. -/
def statements : (allowance : Nat) → (divided : Bool) → Parse (List Statement)
  | 0, _ => return []
  | allowance + 1, divided => do
    if ← symbol ";" then statements allowance true
    else if (← ahead).isEmpty then return []
    else if divided then
      let s ← g.statement
      return s :: (← statements allowance false)
    else if ← atKeyword ["END"] then return []
    else fail "end of statement"

/-- A procedure, behind the word. Its parameters may be left out between their commas. -/
def procedureDefinition : Parse Unit := do
  let _ ← path
  if ← symbol "(" then
    if !(← symbol ")") then
      let parameter : Parse Unit := do
        match ← ahead with
        | .word .. :: _ => do
          let _ ← name
          let _ ← g.dataType
        | _ => pure ()
      looseItems parameter ((← ahead).length + 1)
  expectKeywords ["AS", "BEGIN"]
  let _ ← statements g (2 * (← ahead).length + 2) true
  expectKeyword "END"

/-! ### Triggers -/

/-- The change of rows that a trigger waits for. -/
def triggerEvent : Parse Unit := do
  let k ← expectKeywordOf ["INSERT", "UPDATE", "DELETE", "TRUNCATE"]
  if k = "UPDATE" then
    let _ ← afterKeyword "OF" (commaSeparated name)

/-- A table of old or new rows that a trigger refers to, if one is ahead. A word that leads nowhere
is passed over. -/
def transitionTable : Parse (Option Unit) := do
  if (← keywordOf ["OLD", "NEW"]).isSome then
    if ← keyword "TABLE" then
      let _ ← keyword "AS"
      let _ ← path
      return some ()
    else return none
  else return none

/-- **A trigger**, behind the word. -/
def triggerDefinition : Parse Unit := do
  let _ ← path
  let _ ← expectFirstOf [["BEFORE"], ["AFTER"], ["INSTEAD", "OF"]]
  triggerEvent
  let _ ← repeated do
    if ← keyword "OR" then
      triggerEvent
      return some ()
    else return none
  expectKeyword "ON"
  let _ ← path
  loosePathAfter "FROM"
  let _ ← characteristics
  if ← keyword "REFERENCING" then
    let _ ← repeated transitionTable
  expectKeyword "FOR"
  let _ ← keyword "EACH"
  let _ ← expectKeywordOf ["ROW", "STATEMENT"]
  let _ ← afterKeyword "WHEN" g.expression
  expectKeyword "EXECUTE"
  let _ ← expectKeywordOf ["FUNCTION", "PROCEDURE"]
  functionReference g

/-! ### Other things that can be defined -/

/-- A secret, behind the word: its name and where it is kept may be left out. -/
def secretDefinition : Parse Unit := do
  let _ ← unlessExists
  if !(← atSymbol "(") then
    let placed ← do
      if ← keyword "IN" then nameOrAny
      else
        let _ ← nameOrAny
        pure false
    if !placed then
      if ← keyword "IN" then
        let _ ← nameOrAny
  parenthesized do
    expectKeyword "TYPE"
    let _ ← name
    if ← symbol "," then
      let _ ← commaSeparated do
        let _ ← name
        name

/-- An extension, behind the word. -/
def extensionDefinition : Parse Unit := do
  let _ ← unlessExists
  let _ ← name
  if ← keyword "WITH" then
    let _ ← afterKeyword "SCHEMA" name
    let _ ← afterKeyword "VERSION" name
    let _ ← keyword "CASCADE"

/-- A schema, behind the word. -/
def schemaDefinition : Parse Unit := do
  let _ ← unlessExists
  if !(← atKeyword ["AUTHORIZATION"]) then
    let _ ← path
  let _ ← afterKeyword "AUTHORIZATION" name

/-- A database, behind the word. -/
def databaseDefinition : Parse Unit := do
  let _ ← unlessExists
  let _ ← path
  let _ ← repeated do
    if (← keywordOf ["LOCATION", "MANAGEDLOCATION"]).isSome then return some (← textLiteral)
    else return none

/-- Roles, behind the word. -/
def roleDefinition : Parse Unit := do
  let _ ← unlessExists
  let _ ← commaSeparated path
  let _ ← keyword "WITH"

/-- A sequence, behind the word. -/
def sequenceDefinition : Parse Unit := do
  let _ ← unlessExists
  let _ ← path
  let _ ← afterKeyword "AS" g.dataType
  let _ ← sequenceOptions
  if ← keywords ["OWNED", "BY"] then
    if !(← keyword "NONE") then
      let _ ← path

/-- A composite type, behind the word. -/
def typeDefinition : Parse Unit := do
  let _ ← path
  expectKeyword "AS"
  if ← symbol "(" then
    if !(← symbol ")") then
      let member : Parse Unit := do
        let _ ← name
        let _ ← g.dataType
        let _ ← afterKeyword "COLLATE" path
      looseItems member ((← ahead).length + 1)

/-! ### Definitions -/

/-- What can be defined anew in place of what is there, by the words that open it. -/
def replaceable : List (List String × Parse Unit) :=
  [(["TABLE"], tableDefinition g),
   (["MATERIALIZED", "VIEW"], viewDefinition g),
   (["VIEW"], viewDefinition g),
   (["EXTERNAL", "TABLE"], externalTable g),
   (["FUNCTION"], functionDefinition g),
   (["TRIGGER"], triggerDefinition g),
   (["CONSTRAINT", "TRIGGER"], triggerDefinition g),
   (["MACRO"], macroDefinition g),
   (["SECRET"], secretDefinition)]

/-- What can only be defined where nothing is yet, by the words that open it. -/
def irreplaceable : List (List String × Parse Unit) :=
  [(["EXTENSION"], extensionDefinition),
   (["INDEX"], indexDefinition g),
   (["UNIQUE", "INDEX"], indexDefinition g),
   (["VIRTUAL", "TABLE"], virtualTable),
   (["SCHEMA"], schemaDefinition),
   (["DATABASE"], databaseDefinition),
   (["ROLE"], roleDefinition),
   (["SEQUENCE"], sequenceDefinition g),
   (["TYPE"], typeDefinition g),
   (["PROCEDURE"], procedureDefinition g)]

/-- Runs the reader whose words stand ahead; `wanted` names what has to stand there. -/
def oneOfForms (wanted : String) : List (List String × Parse Unit) → Parse Unit
  | [] => fail wanted
  | (words, form) :: rest => do
    if ← keywords words then form else oneOfForms wanted rest

/-- **A definition**, behind `CREATE`: modifiers in a fixed order, and what is defined. -/
def createStatement : Parse Unit := do
  let replaces ← keywords ["OR", "REPLACE"]
  let _ ← keywords ["OR", "ALTER"]
  let _ ← keyword "LOCAL"
  let _ ← keyword "GLOBAL"
  let _ ← keyword "TRANSIENT"
  let _ ← keywordOf ["TEMP", "TEMPORARY"]
  oneOfForms "an object type after CREATE"
    (if replaces then replaceable g else replaceable g ++ irreplaceable g)

end Pushdown.Sql
