import Pushdown.Sql.Reading

/-!
# Columns and constraints of a table

A column is defined by its name, its type and any number of options. Such a definition does not only
stand in the creation of a table: the fields of a nested type are defined in the same way, and a
cast to one is repeated in error messages. So the options are reduced to their canonical text, in
the order in which they are written; a collation stands before all of them, and of several the last
one counts. The constraints of a whole table appear in no message and are only checked.
-/

namespace Pushdown.Sql

open Parse

/-! ### Numbers and lists of settings -/

/-- The token opens a number or a place left open for one. -/
def Token.opensQuantity : Token → Bool
  | .number .. => true
  | .placeholder _ => true
  | .symbol s => s == ":" || s == "@"
  | _ => false

/-- A number without sign, or a place left open for one. -/
def quantity : Parse String := do
  if (← ahead).head?.any Token.opensQuantity then return (← literal).text
  else fail "literal number"

/-- **The options of a sequence**, each at most once and in a fixed order. -/
def sequenceOptions : Parse (List String) := do
  let counted (word : String) : Parse (Option String) :=
    afterKeyword word do return word ++ " " ++ (← quantity)
  let bound (word : String) : Parse (Option String) := do
    match ← counted word with
    | some text => return some text
    | none => firstOf [["NO", word]]
  let measured (word filler : String) : Parse (Option String) :=
    afterKeyword word do
      let filler := if ← keyword filler then " " ++ filler else ""
      return word ++ filler ++ " " ++ (← quantity)
  let increment ← measured "INCREMENT" "BY"
  let lowest ← bound "MINVALUE"
  let highest ← bound "MAXVALUE"
  let start ← measured "START" "WITH"
  let cache ← counted "CACHE"
  let cycle ← firstOf [["NO", "CYCLE"], ["CYCLE"]]
  return [increment, lowest, highest, start, cache, cycle].filterMap id

/-! ### Constraints -/

/-- When a constraint is checked, by the words that say so. -/
structure Characteristics where
  /-- Whether checking may wait. -/
  deferrable : Option String
  /-- Whether it waits at first. -/
  initially : Option String
  /-- Whether it is checked at all. -/
  enforced : Option String

/-- The text of what is said about a constraint, if anything is. -/
def Characteristics.text (c : Characteristics) : Option String :=
  match [c.deferrable, c.initially, c.enforced].filterMap id with
  | [] => none
  | words => some (String.intercalate " " words)

/-- What is said about a constraint, each of three things at most once and in any order. -/
def characteristicsFrom : (rounds : Nat) → Characteristics → Parse Characteristics
  | 0, c => return c
  | rounds + 1, c => do
    let ifUnknown (known : Option String) (sequences : List (List String)) :
        Parse (Option String) :=
      if known.isSome then return none else firstOf sequences
    match ← ifUnknown c.deferrable [["NOT", "DEFERRABLE"], ["DEFERRABLE"]] with
    | some words => characteristicsFrom rounds { c with deferrable := some words }
    | none =>
      match ← ifUnknown c.initially [["INITIALLY"]] with
      | some word =>
        let time ← expectKeywordOf ["DEFERRED", "IMMEDIATE"]
        characteristicsFrom rounds { c with initially := some (word ++ " " ++ time) }
      | none =>
        match ← ifUnknown c.enforced [["ENFORCED"], ["NOT", "ENFORCED"]] with
        | some words => characteristicsFrom rounds { c with enforced := some words }
        | none => return c

/-- What is said about a constraint. -/
def characteristics : Parse (Option String) := do
  return (← characteristicsFrom 3 ⟨none, none, none⟩).text

/-- What happens to a reference when the row it points to changes. -/
def referentialAction : Parse String :=
  expectFirstOf [["RESTRICT"], ["CASCADE"], ["SET", "NULL"], ["NO", "ACTION"], ["SET", "DEFAULT"]]

/-- The actions on removal and on change, each at most once. -/
def referentialActions : (rounds : Nat) → (onDelete onUpdate : Option String) →
    Parse (Option String × Option String)
  | 0, onDelete, onUpdate => return (onDelete, onUpdate)
  | rounds + 1, onDelete, onUpdate => do
    if onDelete.isNone then
      if ← keywords ["ON", "DELETE"] then
        return ← referentialActions rounds (some (← referentialAction)) onUpdate
    if onUpdate.isNone then
      if ← keywords ["ON", "UPDATE"] then
        return ← referentialActions rounds onDelete (some (← referentialAction))
    return (onDelete, onUpdate)

/-- A reference to another table, behind the word; `columns` reads the columns it points to. -/
def reference (columns : Parse (List Name)) : Parse String := do
  let table ← path
  let columns ← columns
  let (onDelete, onUpdate) ← referentialActions 2 none none
  let more ← characteristics
  return "REFERENCES " ++ pathText table ++
    (if columns.isEmpty then "" else " (" ++ commaText (columns.map Name.text) ++ ")") ++
    spaced (onDelete.map ("ON DELETE " ++ ·)) ++ spaced (onUpdate.map ("ON UPDATE " ++ ·)) ++
    spaced more

/-! ### Options of a column -/

variable (g : Grammar)

/-- Settings in parentheses, each a name with a value. -/
def settingList : Parse (List String) :=
  parenthesized do
    commaSeparated do
      let n ← name
      expectSymbol "="
      return n.text ++ " = " ++ (← g.expressionText)

/-- Settings in parentheses behind some words, none if the words are not ahead. -/
def settingsAfter (words : List String) : Parse (List String) := do
  if ← keywords words then settingList g else return []

/-- An expression in parentheses that computes a column, and how its value is kept. -/
def computation : Parse String := do
  let e ← parenthesized g.expressionText
  return "(" ++ e ++ ")" ++ spaced (← keywordOf ["STORED", "VIRTUAL"])

/-- The sequence behind an identity column. -/
def identitySequence : Parse String := do
  if ← atSymbol "(" then
    let options ← parenthesized sequenceOptions
    return if options.isEmpty then "" else " (" ++ String.join (options.map (" " ++ ·)) ++ " )"
  else return ""

/-- A generated value, behind the word. Words that lead nowhere are passed over. -/
def generatedOption : Parse (Option String) := do
  match ← firstOf [["ALWAYS", "AS", "IDENTITY"], ["BY", "DEFAULT", "AS", "IDENTITY"]] with
  | some words => return some ("GENERATED " ++ words ++ (← identitySequence))
  | none =>
    if ← keywords ["ALWAYS", "AS"] then
      if ← atSymbol "(" then return some ("GENERATED ALWAYS AS " ++ (← computation g))
      else return none
    else return none

/-- **An option of a column**, if one is ahead. -/
def columnOption : Parse (Option String) := do
  match ← keywordOf ["DEFAULT", "MATERIALIZED", "ALIAS"] with
  | some k => return some (k ++ " " ++ (← g.expressionText))
  | none =>
    if ← keywords ["CHARACTER", "SET"] then return some ("CHARACTER SET " ++ pathText (← path))
    else if ← keywords ["NOT", "NULL"] then return some "NOT NULL"
    else if ← keyword "NULL" then return some "NULL"
    else if ← keyword "COMMENT" then
      match ← next "a string" with
      | .quoted s => return some ("COMMENT " ++ quotedText s)
      | _ => fail "a string"
    else if ← keyword "EPHEMERAL" then
      if (← atSymbol ",") || (← atSymbol ")") then return some "EPHEMERAL"
      else return some ("EPHEMERAL " ++ (← g.expressionText))
    else if ← keywords ["PRIMARY", "KEY"] then
      return some ("PRIMARY KEY" ++ spaced (← characteristics))
    else if ← keyword "UNIQUE" then return some ("UNIQUE" ++ spaced (← characteristics))
    else if ← keyword "REFERENCES" then return some (← reference namesIfAny)
    else if ← keyword "CHECK" then
      return some ("CHECK (" ++ (← parenthesized g.expressionText) ++ ")")
    else if ← keyword "AUTO_INCREMENT" then return some "AUTO_INCREMENT"
    else if ← keyword "AUTOINCREMENT" then return some "AUTOINCREMENT"
    else if ← keywords ["ON", "UPDATE"] then return some ("ON UPDATE " ++ (← g.expressionText))
    else if ← keyword "GENERATED" then generatedOption g
    else if ← keyword "OPTIONS" then
      return some ("OPTIONS(" ++ commaText (← settingList g) ++ ")")
    else if ← keyword "AS" then return some ("AS " ++ (← computation g))
    else return none

/-! ### Columns -/

/-- What may stand behind the type of a column. -/
inductive ColumnPart where
  /-- An option, by its text. -/
  | option (text : String)
  /-- A collation. -/
  | collation (parts : List Name)

/-- An option or a collation, if one is ahead. A constraint may have a name. -/
def columnPart : Parse (Option ColumnPart) := do
  let constraint ← afterKeyword "CONSTRAINT" name
  match ← columnOption g, constraint with
  | some text, some n => return some (.option ("CONSTRAINT " ++ n.text ++ " " ++ text))
  | some text, none => return some (.option text)
  | none, some _ => fail "constraint details after CONSTRAINT"
  | none, none => return (← afterKeyword "COLLATE" path).map .collation

/-- **The definition of a column.** -/
def columnDefinition : Parse String := do
  let n ← name
  let type ← g.dataType
  let first ← afterKeyword "COLLATE" path
  let parts ← repeated (columnPart g)
  let collation := parts.foldl (fun found part =>
    match part with
    | .collation parts => some parts
    | .option _ => found) first
  let options := parts.filterMap fun part =>
    match part with
    | .option text => some text
    | .collation _ => none
  return n.text ++ " " ++ type.text ++
    spaced (collation.map fun parts => "COLLATE " ++ pathText parts) ++
    String.join (options.map (" " ++ ·))

/-! ### Constraints of a table -/

/-- The structure of an index, if it is given. -/
def indexStructure : Parse Bool := do
  if ← keyword "USING" then
    let _ ← expectKeywordOf ["BTREE", "HASH"]
    return true
  else return false

/-- The columns of a key, behind an optional name and structure, and the options of its index. -/
def keyColumns : Parse Unit := do
  let _ ← attempt name
  let _ ← indexStructure
  let _ ← names
  let _ ← repeated do
    if ← indexStructure then return some ()
    else if ← keyword "COMMENT" then
      let _ ← textLiteral
      return some ()
    else return none
  let _ ← characteristics

/-- **A constraint of a table**, if one is ahead. Only some kinds may have a name. -/
def tableConstraint : Parse Bool := do
  let constraint ← afterKeyword "CONSTRAINT" name
  if ← keyword "UNIQUE" then
    let _ ← keywordOf ["KEY", "INDEX"]
    keyColumns
    return true
  else if ← keyword "PRIMARY" then
    expectKeyword "KEY"
    keyColumns
    return true
  else if ← keyword "FOREIGN" then
    expectKeyword "KEY"
    let _ ← names
    expectKeyword "REFERENCES"
    let _ ← reference names
    return true
  else if ← keyword "CHECK" then
    let _ ← parenthesized g.expression
    return true
  else if constraint.isSome then fail "PRIMARY, UNIQUE, FOREIGN, or CHECK"
  else if (← keywordOf ["INDEX", "KEY"]).isSome then
    if !(← atKeyword ["USING"]) then
      let _ ← attempt name
    let _ ← indexStructure
    let _ ← names
    return true
  else if (← keywordOf ["FULLTEXT", "SPATIAL"]).isSome then
    let _ ← keywordOf ["KEY", "INDEX"]
    let _ ← attempt name
    let _ ← names
    return true
  else return false

end Pushdown.Sql
