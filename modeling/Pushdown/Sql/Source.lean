import Pushdown.Sql.Expression
import Pushdown.Sql.Pattern

/-!
# Reading sources

What stands behind `FROM`: tables, functions that give tables, queries in parentheses, and the joins
between them. Behind a source its rows may be turned into columns and back or matched against a
pattern; the result is a source again, which may have an alias of its own. Sources may nest in
parentheses without being counted as levels, so their reader carries an allowance.
-/

namespace Pushdown.Sql

open Parse

variable (g : Grammar)

/-- The alias of a source. -/
def tableAlias : Parse (Option TableAlias) := do
  match ← aliasUnless reservedTableAlias with
  | none => return none
  | some n => return some ⟨n, ← namesIfAny⟩

/-! ### Turned and matched rows -/

/-- `PIVOT`, behind the word: values of a column become columns. -/
def pivotClause : Parse String :=
  parenthesized do
    let calls ← commaSeparated do
      match ← next "a function identifier" with
      | .word n _ =>
        let call ← functionCall g [.bare n.value]
        let label ← afterKeyword "AS" name
        return call.text ++ spaced (label.map fun n => "AS " ++ n.text)
      | _ => fail "a function identifier"
    expectKeyword "FOR"
    let column ← path
    expectKeyword "IN"
    let values ← parenthesized do
      if ← keyword "ANY" then
        let order ← orderItems g
        return "ANY" ++ (if order.isEmpty then "" else " " ++ orderText order)
      else if ← atKeyword ["SELECT", "WITH"] then return (← g.query).text
      else
        return commaText (← commaSeparated do
          let e ← g.expression
          let label ← afterKeyword "AS" name
          return e.text ++ spaced (label.map fun n => "AS " ++ n.text))
    let default ← do
      if ← keywords ["DEFAULT", "ON", "NULL"] then
        pure (some ("DEFAULT ON NULL (" ++ (← parenthesized g.expressionText) ++ ")"))
      else pure none
    return "PIVOT(" ++ commaText calls ++ " FOR " ++ pathText column ++ " IN (" ++ values ++ ")" ++
      spaced default ++ ")"

/-- `UNPIVOT`, behind the word: columns become values of a column. -/
def unpivotClause : Parse String :=
  parenthesized do
    let value ← name
    expectKeyword "FOR"
    let column ← name
    expectKeyword "IN"
    let columns ← names
    return "UNPIVOT(" ++ value.text ++ " FOR " ++ column.text ++ " IN (" ++
      commaText (columns.map Name.text) ++ "))"

/-- Which rows a match gives, if it is said. -/
def rowsPerMatch : Parse (Option String) := do
  if ← keywords ["ONE", "ROW", "PER", "MATCH"] then return some "ONE ROW PER MATCH"
  else if ← keywords ["ALL", "ROWS", "PER", "MATCH"] then
    let mode ← firstOf [["SHOW", "EMPTY", "MATCHES"], ["OMIT", "EMPTY", "MATCHES"],
      ["WITH", "UNMATCHED", "ROWS"]]
    return some ("ALL ROWS PER MATCH" ++ spaced mode)
  else return none

/-- Where the search goes on after a match, if it is said. -/
def afterMatch : Parse (Option String) := do
  if ← keywords ["AFTER", "MATCH", "SKIP"] then
    match ← expectFirstOf [["PAST", "LAST", "ROW"], ["TO", "NEXT", "ROW"], ["TO", "FIRST"],
        ["TO", "LAST"]] with
    | "PAST LAST ROW" => return some "AFTER MATCH SKIP PAST LAST ROW"
    -- this one form is written with two spaces
    | "TO NEXT ROW" => return some "AFTER MATCH SKIP  TO NEXT ROW"
    | words => return some ("AFTER MATCH SKIP " ++ words ++ " " ++ (← name).text)
  else return none

/-- `MATCH_RECOGNIZE`, behind the word: the rows that match a pattern. -/
def matchClause : Parse String :=
  parenthesized do
    let partition ← do
      if ← keywords ["PARTITION", "BY"] then
        pure (some ("PARTITION BY " ++ Expr.listText (← g.expressions)))
      else pure none
    let order ← orderItems g
    let measures ← afterKeyword "MEASURES" do
      let items ← commaSeparated do
        let e ← g.expression
        let _ ← keyword "AS"
        return e.text ++ " AS " ++ (← name).text
      return "MEASURES " ++ commaText items
    let rows ← rowsPerMatch
    let skip ← afterMatch
    expectKeyword "PATTERN"
    let pattern ← parenthesized rowPattern
    expectKeyword "DEFINE"
    let definitions ← commaSeparated do
      let n ← name
      expectKeyword "AS"
      return n.text ++ " AS " ++ (← g.expressionText)
    let clauses := [partition, if order.isEmpty then none else some (orderText order), measures,
      rows, skip].filterMap id
    return "MATCH_RECOGNIZE(" ++ String.join (clauses.map (· ++ " ")) ++ "PATTERN (" ++ pattern ++
      ") DEFINE " ++ commaText definitions ++ ")"

/-- A source with a clause behind it, and an alias of its own for the result. -/
def reshapedBy (s : Source) (clause : Parse String) : Parse Source := do
  let text ← clause
  return ⟨.other, s.text ++ " " ++ text, ← tableAlias, ""⟩

/-- Turnings of rows into columns and back behind a source, as far as the allowance goes. -/
def turnedWithin : (allowance : Nat) → Source → Parse Source
  | 0, s => return s
  | allowance + 1, s => do
    if ← keyword "PIVOT" then turnedWithin allowance (← reshapedBy s (pivotClause g))
    else if ← keyword "UNPIVOT" then turnedWithin allowance (← reshapedBy s unpivotClause)
    else return s

/-- Turnings of rows into columns and back behind a source. -/
def turned (s : Source) : Parse Source := do turnedWithin g ((← ahead).length + 1) s

/-! ### Sources by form -/

/-- A source in parentheses that is a query. -/
def derived (lateral : Bool) : Parse Source := do
  let q ← g.query
  expectSymbol ")"
  let alias? ← tableAlias
  return ⟨.other, (if lateral then "LATERAL " else "") ++ "(" ++ q.text ++ ")", alias?, ""⟩

/-- Rows of expressions, each in parentheses. -/
def valueRows : Parse QueryBody := do
  let rows ← commaSeparated do
    let explicit ← keyword "ROW"
    let row ← parenthesized g.expressions
    return (row, explicit)
  return .values (rows.map Prod.fst) (rows.any Prod.snd)

/-- The arguments of a function of a lateral source, behind the opening parenthesis. -/
def lateralArguments : Parse String := do
  if ← symbol ")" then return "()"
  else
    let args ← commaSeparated (argument g)
    expectSymbol ")"
    return "(" ++ commaText (args.map Argument.text) ++ ")"

/-- `SETTINGS`, behind the word. -/
def settingsClause : Parse String := do
  let items ← commaSeparated do
    let n ← name
    expectSymbol "="
    return n.text ++ " = " ++ (← literal).text
  return "SETTINGS " ++ commaText items

/-- The arguments of a table function, at most one of which is a list of settings, the last. -/
def tableArgumentsWithin : (allowance : Nat) → Parse (List String)
  | 0 => fail "fewer arguments"
  | allowance + 1 => do
    if ← keyword "SETTINGS" then return [← settingsClause]
    else
      let first ← argument g
      if ← symbol "," then return first.text :: (← tableArgumentsWithin allowance)
      else return [first.text]

/-- The arguments of a table function, behind the opening parenthesis. -/
def tableArguments : Parse String := do
  if ← symbol ")" then return "()"
  else
    let args ← tableArgumentsWithin g ((← ahead).length + 1)
    expectSymbol ")"
    return "(" ++ commaText args ++ ")"

/-- **A named source**: a table, or a table function with its arguments. -/
def namedSource : Parse Source := do
  let parts ← path
  let partitions ← do
    if ← keyword "PARTITION" then
      pure ("PARTITION (" ++ commaText ((← names).map Name.text) ++ ")")
    else pure ""
  let args ← if ← symbol "(" then tableArguments g else pure ""
  let ordinality := if ← keywords ["WITH", "ORDINALITY"] then " WITH ORDINALITY" else ""
  let alias? ← tableAlias
  let hints ← do
    match ← ahead with
    | t :: .symbol "(" :: rest =>
      if t.keyword = "WITH" then do
        set rest
        let items ← g.expressions
        expectSymbol ")"
        pure (" WITH (" ++ Expr.listText items ++ ")")
      else pure ""
    | _ => pure ""
  let s ← turned g ⟨.named parts, pathText parts ++ partitions ++ args ++ ordinality, alias?, hints⟩
  if ← keyword "MATCH_RECOGNIZE" then reshapedBy s (matchClause g) else return s

/-- What a column of a document's table holds where there is nothing or something unfit. -/
def documentFallbacks : (allowance : Nat) → (onEmpty onError : Option String) →
    Parse (Option String × Option String)
  | 0, onEmpty, onError => return (onEmpty, onError)
  | allowance + 1, onEmpty, onError => do
    match ← keywordOf ["NULL", "ERROR", "DEFAULT"] with
    | none => return (onEmpty, onError)
    | some k => do
      let value ← if k = "DEFAULT" then pure ("DEFAULT " ++ (← literal).text) else pure k
      expectKeyword "ON"
      match ← expectKeywordOf ["EMPTY", "ERROR"] with
      | "EMPTY" => documentFallbacks allowance (some value) onError
      | _ => documentFallbacks allowance onEmpty (some value)

/-- A table of a document's parts, behind the word. -/
def documentTable : Parse String := do
  let inner ← parenthesized do
    let document ← g.expression
    expectSymbol ","
    let root ← literal
    expectKeyword "COLUMNS"
    let columns ← parenthesized do
      commaSeparated do
        let n ← name
        let type ← g.dataType
        let «exists» := if ← keyword "EXISTS" then " EXISTS" else ""
        expectKeyword "PATH"
        let place ← literal
        let (onEmpty, onError) ← documentFallbacks ((← ahead).length + 1) none none
        return n.text ++ " " ++ type.text ++ «exists» ++ " PATH " ++ place.text ++
          spaced (onEmpty.map (· ++ " ON EMPTY")) ++ spaced (onError.map (· ++ " ON ERROR"))
    return document.text ++ ", " ++ root.text ++ " COLUMNS(" ++ commaText columns ++ ")"
  return "JSON_TABLE(" ++ inner ++ ")"

/-- The elements of arrays as rows, behind the word. -/
def unnestedSource : Parse Source := do
  let items ← parenthesized g.expressions
  let ordinality := if ← keywords ["WITH", "ORDINALITY"] then " WITH ORDINALITY" else ""
  let alias? ← tableAlias
  -- a `WITH` that nothing follows is passed over
  let offset ← do
    if ← keyword "WITH" then
      if ← keyword "OFFSET" then
        let a ← aliasUnless reservedColumnAlias
        pure (" WITH OFFSET" ++ spaced (a.map fun n => "AS " ++ n.text))
      else pure ""
    else pure ""
  return ⟨.other, "UNNEST(" ++ Expr.listText items ++ ")" ++ ordinality, alias?, offset⟩

/-- The condition that joins two sources. -/
def joinCondition (natural : Bool) : Parse String := do
  if natural then return ""
  else if ← keyword "ON" then return " ON " ++ (← g.expressionText)
  else if ← keyword "USING" then return " USING(" ++ commaText ((← names).map Name.text) ++ ")"
  else return ""

/-- The kind of join ahead, spelled canonically, if there is one. -/
def joinWord (natural : Bool) : Parse (Option String) := do
  if ← atKeyword ["INNER", "JOIN"] then
    let _ ← keyword "INNER"
    expectKeyword "JOIN"
    return some "JOIN"
  else
    match ← keywordOf ["LEFT", "RIGHT"] with
    | some side =>
      let kind ← expectKeywordOf ["OUTER", "SEMI", "ANTI", "JOIN"]
      if kind = "JOIN" then return some (side ++ " JOIN")
      else
        expectKeyword "JOIN"
        return some (side ++ (if kind = "OUTER" then "" else " " ++ kind) ++ " JOIN")
    | none =>
      if ← keyword "FULL" then
        let _ ← keyword "OUTER"
        expectKeyword "JOIN"
        return some "FULL JOIN"
      else if natural || (← atKeyword ["OUTER"]) then fail "a join type"
      else return none

/-- One join, if one is ahead; `source` reads what is joined. -/
def joinAhead (source : Parse Source) : Parse (Option String) := do
  let global := if ← keyword "GLOBAL" then " GLOBAL" else ""
  if ← keyword "CROSS" then
    let word ← expectKeywordOf ["JOIN", "APPLY"]
    return some (global ++ " CROSS " ++ word ++ " " ++ (← source).text)
  else if ← keyword "OUTER" then
    expectKeyword "APPLY"
    return some (global ++ " OUTER APPLY " ++ (← source).text)
  else if ← keyword "ASOF" then
    expectKeyword "JOIN"
    let s ← source
    expectKeyword "MATCH_CONDITION"
    let condition ← parenthesized g.expression
    return some (global ++ " ASOF JOIN " ++ s.text ++ " MATCH_CONDITION (" ++ condition.text ++
      ")" ++ (← joinCondition g false))
  else
    let natural ← keyword "NATURAL"
    match ← joinWord natural with
    | none => return none
    | some word =>
      let s ← source
      let condition ← joinCondition g natural
      return some (global ++ (if natural then " NATURAL " else " ") ++ word ++ " " ++ s.text ++
        condition)

/-- A source with the joins behind it. -/
def joinedFrom (source : Parse Source) : Parse JoinedSource := do
  let first ← source
  return ⟨first, ← repeated (joinAhead g source)⟩

/-- Gives a source an alias that stands outside its parentheses; it may have only one. -/
def withOuterAlias (s : Source) : Parse Source := do
  match ← tableAlias with
  | none => return s
  | some a => if s.alias?.isSome then fail "one alias" else return { s with alias? := some a }

/-- **A source.** Parentheses hold a query, a join, or one source again. -/
def source : (allowance : Nat) → Parse Source
  | 0 => fail "a source"
  | allowance + 1 => do
    if ← keyword "LATERAL" then
      if ← symbol "(" then derived g true
      else
        let parts ← path
        expectSymbol "("
        let args ← lateralArguments g
        return ⟨.other, "LATERAL " ++ pathText parts ++ args, ← tableAlias, ""⟩
    else if ← keyword "TABLE" then
      let e ← parenthesized g.expression
      return ⟨.other, "TABLE(" ++ e.text ++ ")", ← tableAlias, ""⟩
    else if ← symbol "(" then
      -- only the failure to read a query shows that the parentheses hold a join or a source
      match ← attempt (derived g false) with
      | some s => turned g s
      | none =>
        let inner ← joinedFrom g (source allowance)
        expectSymbol ")"
        match inner.joins, inner.source.kind with
        | [], .named _ | [], .other => withOuterAlias inner.source
        | _, _ => return ⟨.join, "(" ++ inner.text ++ ")", ← tableAlias, ""⟩
    else if ← keyword "UNNEST" then unnestedSource g
    else
      match ← ahead with
      | .word _ "VALUES" :: (.symbol "(" :: _) => do
        let _ ← next "VALUES"
        let rows ← valueRows g
        return ⟨.other, "(" ++ rows.text ++ ")", ← tableAlias, ""⟩
      | .word _ "JSON_TABLE" :: (.symbol "(" :: _) => do
        let _ ← next "JSON_TABLE"
        return ⟨.other, ← documentTable g, ← tableAlias, ""⟩
      | _ => namedSource g

/-- A source with its joins. -/
def joinedSource : Parse JoinedSource := do
  joinedFrom g (source g ((← ahead).length + 1))

end Pushdown.Sql
