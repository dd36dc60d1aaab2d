import Pushdown.Sql.Operation

/-!
# Orders, windows and calls

A function is called with arguments, and among and behind them may stand clauses: an order, what to
do with nulls, a group, a window. A call with plain arguments alone is one that the engine may
know by name; any other is kept as its text. A star may stand where an argument or an item of a
projection does.
-/

namespace Pushdown.Sql

open Parse

variable (g : Grammar)

/-! ### Orders and stars -/

/-- The direction of an order. -/
def direction : Parse (Option Bool) := do
  if ← keyword "ASC" then return some true
  else if ← keyword "DESC" then return some false
  else return none

/-- **A key of an order.** -/
def orderItem : Parse OrderItem := do
  let e ← g.expression
  let ascending ← direction
  let nullsFirst ← do
    if ← keywords ["NULLS", "FIRST"] then pure (some true)
    else if ← keywords ["NULLS", "LAST"] then pure (some false)
    else pure none
  let fill ← do
    if ← keywords ["WITH", "FILL"] then
      let start ← afterKeyword "FROM" g.expressionText
      let stop ← afterKeyword "TO" g.expressionText
      let step ← afterKeyword "STEP" g.expressionText
      pure (some ("WITH FILL" ++ spaced (start.map ("FROM " ++ ·)) ++
        spaced (stop.map ("TO " ++ ·)) ++ spaced (step.map ("STEP " ++ ·))))
    else pure none
  return ⟨e, ascending, nullsFirst, fill⟩

/-- The keys of an order, if one is asked for. -/
def orderItems : Parse (List OrderItem) := do
  if ← keywords ["ORDER", "BY"] then commaSeparated (orderItem g) else return []

/-- The text of an order. -/
def orderText (items : List OrderItem) : String :=
  "ORDER BY " ++ commaText (items.map OrderItem.text)

/-- An expression, or a star with or without a qualifier in front. -/
inductive Starred where
  /-- All columns. -/
  | all
  /-- All columns of a source. -/
  | allOf (parts : List Name)
  /-- An expression. -/
  | expr (e : Expr)

/-- The parts of a qualified star behind the first, if the tokens ahead form one. -/
def starParts : (allowance : Nat) → Parse (Option (List Name))
  | 0 => return none
  | allowance + 1 => do
    if ← symbol "." then
      match ← next "an identifier or a '*' after '.'" with
      | .word n _ => return (← starParts allowance).map (n :: ·)
      | .quoted s => return (← starParts allowance).map (⟨s, some '\''⟩ :: ·)
      | .symbol "*" => return some []
      | _ => fail "an identifier or a '*' after '.'"
    else return none

/-- **An expression or a star.** A name that goes on with a point has to go on with names or end in
a star. -/
def starred : Parse Starred := do
  let start ← ahead
  let qualified (first : Name) : Parse Starred := do
    let _ ← next "an expression"
    match ← starParts ((← ahead).length + 1) with
    | some parts => return .allOf (first :: parts)
    | none => do
      set start
      return .expr (← g.expression)
  match start with
  | .symbol "*" :: rest => do
    set rest
    return .all
  | .word n _ :: .symbol "." :: _ => qualified n
  | .quoted s :: .symbol "." :: _ => qualified ⟨s, some '\''⟩
  | _ => return .expr (← g.expression)

/-- The text of an expression or a star. -/
def Starred.text : Starred → String
  | .all => "*"
  | .allOf parts => pathText parts ++ ".*"
  | .expr e => e.text

/-! ### Functions -/

/-- An argument of a function: a plain expression, or the text of another form. -/
inductive Argument where
  /-- An expression. -/
  | plain (e : Expr)
  /-- A star or a named argument. -/
  | other (text : String)

/-- The text of an argument. -/
def Argument.text : Argument → String
  | .plain e => e.text
  | .other s => s

/-- The text of an argument with a name. -/
def namedArgument (n : Name) (sign value : String) : Argument :=
  .other (n.text ++ " " ++ sign ++ " " ++ value)

/-- An argument: named by an arrow or an assignment sign, or without a name. A star may stand
everywhere but behind the assignment sign. -/
def argument : Parse Argument := do
  match ← ahead with
  | _ :: .symbol "=>" :: _ =>
    let n ← name
    expectSymbol "=>"
    let value ← starred g
    return namedArgument n "=>" value.text
  | _ :: .symbol ":=" :: _ =>
    let n ← name
    expectSymbol ":="
    let value ← g.expression
    return namedArgument n ":=" value.text
  | _ =>
    match ← starred g with
    | .expr e => return .plain e
    | other => return .other other.text

/-- What a call says about nulls. -/
def nullTreatment : Parse (Option String) := do
  match ← keywordOf ["RESPECT", "IGNORE"] with
  | none => return none
  | some k => do
    expectKeyword "NULLS"
    return some (k ++ " NULLS")

/-- The arguments of a call with the clauses among them. -/
structure ArgumentList where
  /-- The arguments. -/
  args : List Argument
  /-- The whole text between the parentheses. -/
  text : String
  /-- Nulls are treated of among the arguments. -/
  treatsNulls : Bool

/-- The token is a text that may open the filler of a text that grows too long. -/
def opensFiller : Token → Bool
  | .quoted _ => true
  | .literal style _ => style ∈ [.escaped, .unicode, .national, .hex]
  | _ => false

/-- What happens to a text that grows too long. -/
def overflowClause : Parse (Option String) := do
  if ← keywords ["ON", "OVERFLOW"] then
    if ← keyword "ERROR" then return some "ON OVERFLOW ERROR"
    else
      expectKeyword "TRUNCATE"
      let filler ← do
        if ← atKeyword ["WITH", "WITHOUT"] then pure none
        else if (← ahead).head?.any opensFiller then pure (some (← g.expressionText))
        else fail "a text, WITH, or WITHOUT"
      let word ← expectKeywordOf ["WITH", "WITHOUT"]
      expectKeyword "COUNT"
      return some ("ON OVERFLOW TRUNCATE" ++ spaced filler ++ " " ++ word ++ " COUNT")
  else return none

/-- The arguments of a call, behind the opening parenthesis. -/
def argumentList : Parse ArgumentList := do
  if ← symbol ")" then return ⟨[], "", false⟩
  else
    let all ← keyword "ALL"
    let distinct ← keyword "DISTINCT"
    if all && distinct then fail "one of ALL and DISTINCT"
    -- the clauses stand in a fixed order, and each may be left out
    let args ← commaSeparated (argument g)
    let nulls ← nullTreatment
    let order ← orderItems g
    let limit ← afterKeyword "LIMIT" g.expressionText
    let having ← afterKeyword "HAVING" do
      let k ← expectKeywordOf ["MIN", "MAX"]
      return k ++ " " ++ (← g.expressionText)
    let separator ← afterKeyword "SEPARATOR" literal
    let overflow ← overflowClause g
    expectSymbol ")"
    let clauses := [nulls, if order.isEmpty then none else some (orderText order),
      limit.map ("LIMIT " ++ ·), having.map ("HAVING " ++ ·),
      separator.map ("SEPARATOR " ++ ·.text), overflow].filterMap id
    let word := if all then "ALL " else if distinct then "DISTINCT " else ""
    return ⟨args, word ++ commaText (args.map Argument.text) ++
      String.join (clauses.map (" " ++ ·)), nulls.isSome⟩

/-- A bound of a window frame. A text counts as an interval. -/
def frameBound : Parse String := do
  if ← keywords ["CURRENT", "ROW"] then return "CURRENT ROW"
  else
    let rows ← do
      if ← keyword "UNBOUNDED" then pure "UNBOUNDED"
      else
        match ← ahead with
        | .quoted _ :: _ => pure (← interval g).text
        | _ => g.expressionText
    return rows ++ " " ++ (← expectKeywordOf ["PRECEDING", "FOLLOWING"])

/-- A window, behind its opening parenthesis and up to its closing one. -/
def window : Parse String := do
  let base ← do
    match ← ahead with
    | t :: ts =>
      if t.plainWord?.isSome then do
        set ts
        pure (some t.text)
      else pure none
    | [] => pure none
  let partition ← do
    if ← keywords ["PARTITION", "BY"] then
      pure (some ("PARTITION BY " ++ Expr.listText (← g.expressions)))
    else pure none
  let order ← orderItems g
  let frame ← do
    if ← symbol ")" then pure none
    else
      let unit ← expectKeywordOf ["ROWS", "RANGE", "GROUPS"]
      let text ← do
        if ← keyword "BETWEEN" then
          let start ← frameBound g
          expectKeyword "AND"
          pure ("BETWEEN " ++ start ++ " AND " ++ (← frameBound g))
        else frameBound g
      expectSymbol ")"
      pure (some (unit ++ " " ++ text))
  return String.intercalate " " ([base, partition,
    if order.isEmpty then none else some (orderText order), frame].filterMap id)

/-- The plain arguments of a call, if all are plain. -/
def plainArguments : List Argument → Option (List Expr)
  | [] => some []
  | .plain e :: rest => (plainArguments rest).map (e :: ·)
  | .other _ :: _ => none

/-- A call as an expression: with plain arguments only the engine can name it, otherwise it is its
text. -/
def callOf (name : String) (args : List Argument) (whole : String) : Expr :=
  match plainArguments args with
  | some es => .call name es whole
  | none => .verbatim whole

/-- **A call of a function**, behind its name. -/
def functionCall (parts : List Name) : Parse Expr := do
  expectSymbol "("
  let first ← argumentList g
  let (parameters, args) ← do
    if ← symbol "(" then pure ("(" ++ first.text ++ ")", ← argumentList g) else pure ("", first)
  let withinGroup ← do
    if ← keywords ["WITHIN", "GROUP"] then
      let items ← parenthesized do
        expectKeywords ["ORDER", "BY"]
        commaSeparated (orderItem g)
      pure (some ("WITHIN GROUP (" ++ orderText items ++ ")"))
    else pure none
  let nulls ← if args.treatsNulls then pure none else nullTreatment
  let windowed ← afterKeyword "OVER" do
    if ← symbol "(" then return "(" ++ (← window g) ++ ")" else return (← name).text
  return callOf (pathText parts) args.args
    (pathText parts ++ parameters ++ "(" ++ args.text ++ ")" ++ spaced withinGroup ++
      spaced nulls ++ spaced (windowed.map ("OVER " ++ ·)))

end Pushdown.Sql
