import Pushdown.Sql.Call

/-!
# Reading expressions

Operands come in many forms; those that no later stage looks into are reduced to their canonical
text on the spot. A bare word is first tried as a data type in front of a text literal, so
`DATE '2020-01-01'` is one literal while `date > '2020-01-01'` is a comparison of a column.
-/

namespace Pushdown.Sql

open Parse

variable (g : Grammar)

/-! ### Operands by keyword -/

/-- `CASE`, behind the word. -/
def caseExpr : Parse Expr := do
  let operand ← do
    if ← keyword "WHEN" then pure none
    else
      let e ← g.expression
      expectKeyword "WHEN"
      pure (some e.text)
  let branch : Parse String := do
    let condition ← g.expression
    expectKeyword "THEN"
    return " WHEN " ++ condition.text ++ " THEN " ++ (← g.expressionText)
  let first ← branch
  let more ← repeated do
    if ← keyword "WHEN" then return some (← branch) else return none
  let default ← afterKeyword "ELSE" g.expressionText
  expectKeyword "END"
  return .verbatim ("CASE" ++ spaced operand ++ first ++ String.join more ++
    spaced (default.map ("ELSE " ++ ·)) ++ " END")

/-- A cast under one of its names, behind the name. -/
def castExpr (word : String) : Parse Expr := do
  let inner ← parenthesized do
    let e ← g.expression
    expectKeyword "AS"
    let t ← g.dataType
    let format ← afterKeyword "FORMAT" do
      let f ← literal
      if ← keywords ["AT", "TIME", "ZONE"] then
        return f.text ++ " AT TIME ZONE " ++ (← literal).text
      else return f.text
    return e.text ++ " AS " ++ t.text ++ spaced (format.map ("FORMAT " ++ ·))
  return .verbatim (word ++ "(" ++ inner ++ ")")

/-- `CONVERT`, behind the word. -/
def convertExpr : Parse Expr := do
  let inner ← parenthesized do
    let e ← g.expression
    if ← keyword "USING" then return e.text ++ " USING " ++ pathText (← path)
    else
      expectSymbol ","
      let t ← g.dataType
      if ← keywords ["CHARACTER", "SET"] then
        return e.text ++ ", " ++ t.text ++ " CHARACTER SET " ++ pathText (← path)
      else return e.text ++ ", " ++ t.text
  return .verbatim ("CONVERT(" ++ inner ++ ")")

/-- `EXISTS`, behind the word. -/
def existsExpr (negated : Bool) : Parse Expr := do
  let q ← parenthesized g.query
  return .verbatim (notText negated ++ "EXISTS (" ++ q.text ++ ")")

/-- `EXTRACT`, behind the word. -/
def extractExpr : Parse Expr := do
  let inner ← parenthesized do
    let field ← dateTimeField
    if ← keyword "FROM" then return field ++ " FROM " ++ (← g.expressionText)
    else if ← symbol "," then return field ++ ", " ++ (← g.expressionText)
    else fail "'FROM' or ','"
  return .verbatim ("EXTRACT(" ++ inner ++ ")")

/-- Rounding up or down, behind the word. -/
def roundingExpr (word : String) : Parse Expr := do
  let inner ← parenthesized do
    let e ← g.expression
    if ← keyword "TO" then return e.text ++ " TO " ++ (← dateTimeField)
    else if ← symbol "," then
      match ← literal with
      | .number digits long => return e.text ++ ", " ++ (Expr.number digits long).text
      | _ => fail "a scale that is a number"
    else return e.text
  return .verbatim (word ++ "(" ++ inner ++ ")")

/-- `POSITION`, behind the word: the form with `IN`, or a call. -/
def positionExpr (n : Name) : Parse Expr := do
  let inner? ← attempt do
    parenthesized do
      let e ← g.operation 20
      expectKeyword "IN"
      return e.text ++ " IN " ++ (← g.expressionText)
  match inner? with
  | some inner => return .verbatim ("POSITION(" ++ inner ++ ")")
  | none => functionCall g [n]

/-- `SUBSTRING`, behind the word. -/
def substringExpr : Parse Expr := do
  let inner ← parenthesized do
    let e ← g.expression
    let commas ← symbol ","
    let start ← do
      if commas then pure (some (← g.expressionText))
      else afterKeyword "FROM" g.expressionText
    let count ← do
      if ← keyword "FOR" then pure (some (← g.expressionText))
      else if ← symbol "," then pure (some (← g.expressionText))
      else pure none
    let part (word : String) (s : String) := if commas then ", " ++ s else " " ++ word ++ " " ++ s
    return e.text ++ (start.map (part "FROM")).getD "" ++ (count.map (part "FOR")).getD ""
  return .verbatim ("SUBSTRING(" ++ inner ++ ")")

/-- `OVERLAY`, behind the word. -/
def overlayExpr : Parse Expr := do
  let inner ← parenthesized do
    let e ← g.expression
    expectKeyword "PLACING"
    let what ← g.expression
    expectKeyword "FROM"
    let start ← g.expression
    let count ← afterKeyword "FOR" g.expressionText
    return e.text ++ " PLACING " ++ what.text ++ " FROM " ++ start.text ++
      spaced (count.map ("FOR " ++ ·))
  return .verbatim ("OVERLAY(" ++ inner ++ ")")

/-- `TRIM`, behind the word. -/
def trimExpr : Parse Expr := do
  let inner ← parenthesized do
    let side ← keywordOf ["BOTH", "LEADING", "TRAILING"]
    let before := (side.map (· ++ " ")).getD ""
    let e ← g.expression
    if ← keyword "FROM" then return before ++ e.text ++ " FROM " ++ (← g.expressionText)
    else if ← symbol "," then return e.text ++ ", " ++ Expr.listText (← g.expressions)
    else return before ++ e.text
  return .verbatim ("TRIM(" ++ inner ++ ")")

/-- `MATCH`, behind the word. -/
def matchExpr : Parse Expr := do
  let columns ← names
  expectKeyword "AGAINST"
  let inner ← parenthesized do
    let value ← literal
    let modifier ← do
      if ← keywords ["IN", "NATURAL", "LANGUAGE", "MODE"] then
        if ← keywords ["WITH", "QUERY", "EXPANSION"] then
          pure (some "IN NATURAL LANGUAGE MODE WITH QUERY EXPANSION")
        else pure (some "IN NATURAL LANGUAGE MODE")
      else if ← keywords ["IN", "BOOLEAN", "MODE"] then pure (some "IN BOOLEAN MODE")
      else if ← keywords ["WITH", "QUERY", "EXPANSION"] then pure (some "WITH QUERY EXPANSION")
      else pure none
    return value.text ++ spaced modifier
  return .verbatim ("MATCH (" ++ commaText (columns.map Name.text) ++ ") AGAINST (" ++ inner ++ ")")

/-- `STRUCT`, behind the word: optional field types, then the values, which may be named if no
types are given. -/
def structExpr : Parse Expr := do
  let types ← do
    if ← symbol "<" then
      let (fields, closesOuter) ← DataType.angleFields g
      if closesOuter then fail "a structure without a further >"
      pure (some fields)
    else pure none
  let values ← parenthesized do
    commaSeparated do
      let e ← g.expression
      if ← keyword "AS" then
        if types.isSome then fail "a value without a name"
        return e.text ++ " AS " ++ (← name).text
      else return e.text
  let typeText := (types.map fun fields => "<" ++ commaText fields ++ ">").getD ""
  return .verbatim ("STRUCT" ++ typeText ++ "(" ++ commaText values ++ ")")

/-- The entries between braces, behind the opening one, of which there is at least one. -/
def braceEntries (key : Parse String) : Parse String := do
  let entries ← commaSeparated do
    let k ← key
    expectSymbol ":"
    return k ++ ": " ++ (← g.expressionText)
  expectSymbol "\x7d"
  return "\x7b" ++ commaText entries ++ "\x7d"

/-- An array, behind its opening bracket. -/
def arrayExpr (named : Bool) : Parse Expr := do
  if ← symbol "]" then return .array [] named
  else
    let items ← g.expressions
    expectSymbol "]"
    return .array items named

/-! ### Operands -/

/-- A text literal with its type in front. -/
def typedLiteral : Parse Expr := do
  let t ← g.dataType
  match t.kind with
  | .interval => interval g
  | .custom => fail "a known type"
  | .known => return .verbatim (t.text ++ " " ++ quotedText (← textLiteral))

/-- The parts of a name behind the first, each behind its point. -/
def columnParts : (allowance : Nat) → Parse (List Name)
  | 0 => return []
  | allowance + 1 => do
    if ← symbol "." then
      match ← next "an identifier after '.'" with
      | .word n _ => return n :: (← columnParts allowance)
      | .quoted s => return ⟨s, some '\''⟩ :: (← columnParts allowance)
      | _ => fail "an identifier after '.'"
    else return []

/-- **What a word opens** when no keyword claims it: a name of one or several parts, a call, or a
text with its character set in front. -/
def nameOrCall (n : Name) : Parse Expr := do
  match ← ahead with
  | .symbol s :: _ =>
    if s = "(" ∨ s = "." then
      let parts := n :: (← columnParts ((← ahead).length + 1))
      if ← atSymbol "(" then functionCall g parts else return .column parts
    else return .column [n]
  | .quoted s :: rest =>
    if n.value.startsWith "_" then do
      set rest
      return .verbatim (n.value ++ " " ++ quotedText s)
    else return .column [n]
  | .literal .hex s :: rest =>
    if n.value.startsWith "_" then do
      set rest
      return .verbatim (n.value ++ " " ++ LiteralStyle.hex.text s)
    else return .column [n]
  | _ => return .column [n]

/-- A time of the statement's execution: a call with or without parentheses. -/
def timeCall (n : Name) : Parse Expr := do
  if ← symbol "(" then
    let args ← argumentList g
    return callOf n.text args.args (n.text ++ "(" ++ args.text ++ ")")
  else return .call n.text [] n.text

/-- `NOT`, behind the word. -/
def notExpr : Parse Expr := do
  if ← keyword "EXISTS" then existsExpr g true else return .not (← g.operation 15)

/-- A word as the start of an operand. -/
def wordOperand (n : Name) (k : String) : Parse Expr := do
  if k = "TRUE" then return .boolean true
  else if k = "FALSE" then return .boolean false
  else if k = "NULL" then return .null
  else if k ∈ ["CURRENT_CATALOG", "CURRENT_USER", "SESSION_USER", "USER"] then
    return .call n.text [] n.text
  else if k ∈ ["CURRENT_TIMESTAMP", "CURRENT_TIME", "CURRENT_DATE", "LOCALTIME",
      "LOCALTIMESTAMP"] then timeCall g n
  else if k = "CASE" then caseExpr g
  else if k = "CONVERT" then convertExpr g
  else if k ∈ ["CAST", "TRY_CAST", "SAFE_CAST"] then castExpr g k
  else if k = "EXISTS" then existsExpr g false
  else if k = "EXTRACT" then extractExpr g
  else if k = "CEIL" ∨ k = "FLOOR" then roundingExpr g k
  else if k = "POSITION" ∧ (← atSymbol "(") then positionExpr g n
  else if k = "SUBSTRING" then substringExpr g
  else if k = "OVERLAY" then overlayExpr g
  else if k = "TRIM" then trimExpr g
  else if k = "INTERVAL" then interval g
  else if k = "ARRAY" ∧ (← atSymbol "[") then
    expectSymbol "["
    arrayExpr g true
  else if k = "ARRAY" ∧ (← atSymbol "(") then
    let q ← parenthesized g.query
    return .call n.text [] (n.text ++ "(" ++ q.text ++ ")")
  else if k = "NOT" then notExpr g
  else if k = "PRIOR" ∧ g.allowsPrior then return .verbatim ("PRIOR " ++ (← g.operation 30).text)
  else if k = "MATCH" then matchExpr
  else if k = "STRUCT" then structExpr g
  else if k = "MAP" ∧ (← atSymbol "\x7b") then
    expectSymbol "\x7b"
    -- of the two forms in braces only a map may be empty
    if ← symbol "\x7d" then return .verbatim "MAP \x7b\x7d"
    else return .verbatim ("MAP " ++ (← braceEntries g g.expressionText))
  else nameOrCall g n

/-- What an opening parenthesis opens: a subquery, one expression or a tuple; a point behind it
picks a part of the value. -/
def parenthesizedOperand : Parse Expr := do
  let inner ← do
    if ← atKeyword ["SELECT", "WITH"] then
      let q ← g.query
      pure (Expr.verbatim ("(" ++ q.text ++ ")"))
    else
      match ← g.expressions with
      | [e] => pure (.nested e)
      | es => pure (.verbatim ("(" ++ Expr.listText es ++ ")"))
  expectSymbol ")"
  if ← symbol "." then
    match ← next "an identifier" with
    | .word n _ => return .verbatim (inner.text ++ "." ++ n.text)
    | _ => fail "an identifier"
  else return inner

/-- An operand by its first token. -/
def operandFrom (t : Token) : Parse Expr := do
  match t with
  | .word n k => wordOperand g n k
  | .number digits long => return .number digits long
  | .quoted s => return .quoted s
  | .literal .. => return .verbatim t.text
  | .placeholder s => return .verbatim s
  | .symbol "[" => arrayExpr g false
  | .symbol "-" => return .minus (← g.operation 40)
  | .symbol "+" => return .verbatim ("+" ++ (← g.operation 40).text)
  | .symbol "(" => parenthesizedOperand g
  | .symbol "\x7b" => return .verbatim (← braceEntries g do return (← name).text)
  | .symbol s =>
    if s = ":" ∨ s = "@" then
      match ← next "placeholder" with
      | .word n _ => return .verbatim (s ++ n.value)
      | .number digits false => return .verbatim (s ++ digits)
      | _ => fail "placeholder"
    else fail "an expression"

/-- **An operand**, with the collation behind it. -/
def operand : Parse Expr := do
  -- `DATE '2020-01-01'` is tried first, so that `date` alone remains a column
  match ← attempt (typedLiteral g) with
  | some e => return e
  | none =>
    let e ← operandFrom g (← next "an expression")
    if ← keyword "COLLATE" then
      return .verbatim (e.text ++ " COLLATE " ++ pathText (← path))
    else return e

/-- **An expression** whose operators bind more tightly than a bound. -/
def boundExpression (bound : Nat) : Parse Expr := do
  let first ← operand g
  withOperators g (fun _ => false) bound ((← ahead).length + 1) first

end Pushdown.Sql
