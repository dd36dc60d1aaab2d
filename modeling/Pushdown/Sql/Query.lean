import Pushdown.Sql.Source

/-!
# Reading queries

A query is a body with clauses behind it, and a body is a SELECT, rows of values, a query in
parentheses, or several of these joined by set operations. Each clause is read where it stands and
kept under its name; none is skipped.
-/

namespace Pushdown.Sql

open Parse

variable (g : Grammar)

/-! ### Projections -/

/-- Names in parentheses, or one name without them. -/
def oneOrMoreNames : Parse String := do
  if ← atSymbol "(" then return "(" ++ commaText ((← names).map Name.text) ++ ")"
  else return (← name).text

/-- What may follow a star: changes to the columns it stands for. -/
def starOptions : Parse String := do
  let pattern ← afterKeyword "ILIKE" do
    match ← next "ilike pattern" with
    | .quoted s => return "ILIKE " ++ quotedText s
    | _ => fail "ilike pattern"
  let exclude ← do
    if pattern.isSome then pure none
    else afterKeyword "EXCLUDE" do return "EXCLUDE " ++ (← oneOrMoreNames)
  let except ← afterKeyword "EXCEPT" do
    if ← atSymbol "(" then return "EXCEPT (" ++ commaText ((← names).map Name.text) ++ ")"
    else return "EXCEPT (" ++ (← name).text ++ ")"
  let replace ← afterKeyword "REPLACE" do
    let items ← parenthesized do
      commaSeparated do
        let e ← g.expression
        let sign := if ← keyword "AS" then " AS " else " "
        return e.text ++ sign ++ (← name).text
    return "REPLACE (" ++ commaText items ++ ")"
  let rename ← afterKeyword "RENAME" do
    let item : Parse String := do
      let n ← name
      expectKeyword "AS"
      return n.text ++ " AS " ++ (← name).text
    if ← atSymbol "(" then
      return "RENAME (" ++ commaText (← parenthesized (commaSeparated item)) ++ ")"
    else return "RENAME " ++ (← item)
  return String.join ([pattern, exclude, except, replace, rename].map spaced)

/-- The name `from` without quotes, where an expression is missing. -/
def isMissing : Expr → Bool
  | .column [n] => n.quote.isNone && n.value.toLower == "from"
  | _ => false

/-- **An item of a projection.** -/
def selectItem : Parse SelectItem := do
  match ← starred g with
  | .all => return .wildcard ("*" ++ (← starOptions g))
  | .allOf parts => return .wildcard (pathText parts ++ ".*" ++ (← starOptions g))
  | .expr e =>
    if isMissing e then fail "an expression"
    else return .expr e (← aliasUnless reservedColumnAlias)

/-! ### SELECT -/

/-- `ALL`, `DISTINCT` or nothing. -/
def distinctClause : Parse (Option String) := do
  let all ← keyword "ALL"
  if ← keyword "DISTINCT" then
    if all then fail "one of ALL and DISTINCT"
    else if ← keyword "ON" then
      expectSymbol "("
      let columns ← if ← atSymbol ")" then pure [] else g.expressions
      expectSymbol ")"
      return some ("DISTINCT ON (" ++ Expr.listText columns ++ ")")
    else return some "DISTINCT"
  else return none

/-- `TOP`, behind the word. -/
def topClause : Parse String := do
  let quantity ← do
    if ← symbol "(" then
      let e ← g.expression
      expectSymbol ")"
      pure ("(" ++ e.text ++ ")")
    else pure (Number.intText (← natural))
  let percent := if ← keyword "PERCENT" then " PERCENT" else ""
  let ties := if ← keywords ["WITH", "TIES"] then " WITH TIES" else ""
  return "TOP " ++ quantity ++ percent ++ ties

/-- `INTO`, behind the word. -/
def intoClause : Parse String := do
  let temporary ← keywordOf ["TEMP", "TEMPORARY"]
  let unlogged := if ← keyword "UNLOGGED" then " UNLOGGED" else ""
  let table := if ← keyword "TABLE" then " TABLE" else ""
  let target ← path
  return "INTO" ++ (if temporary.isSome then " TEMPORARY" else "") ++ unlogged ++ table ++ " " ++
    pathText target

/-- A lateral view, if one is ahead. -/
def lateralView : Parse (Option String) := do
  if ← keywords ["LATERAL", "VIEW"] then
    let outer := if ← keyword "OUTER" then " OUTER" else ""
    let e ← g.expression
    let view ← path
    let columns ← commaSeparated (aliasUnless reservedViewAlias)
    let columns := columns.filterMap id
    return some (" LATERAL VIEW" ++ outer ++ " " ++ e.text ++ " " ++ pathText view ++
      (if columns.isEmpty then "" else " AS " ++ commaText (columns.map Name.text)))
  else return none

/-- Expressions in parentheses that are grouped together; there may be none. -/
def groupingSet : Parse (List Expr) := do
  expectSymbol "("
  let es ← if ← atSymbol ")" then pure [] else g.expressions
  expectSymbol ")"
  return es

/-- The expressions that are grouped together at each step of `CUBE` or `ROLLUP`. One expression
needs no parentheses. -/
def groupingSteps : Parse String := do
  let steps ← parenthesized do
    commaSeparated do
      if ← atSymbol "(" then
        match ← groupingSet g with
        | [e] => return e.text
        | es => return "(" ++ Expr.listText es ++ ")"
      else g.expressionText
  return " (" ++ commaText steps ++ ")"

/-- One item of a grouping. -/
def groupItem : Parse String := do
  if ← keywords ["GROUPING", "SETS"] then
    let sets ← parenthesized (commaSeparated (groupingSet g))
    return "GROUPING SETS (" ++ commaText (sets.map fun es => "(" ++ Expr.listText es ++ ")") ++ ")"
  else if ← keyword "CUBE" then return "CUBE" ++ (← groupingSteps g)
  else if ← keyword "ROLLUP" then return "ROLLUP" ++ (← groupingSteps g)
  else
    match ← ahead with
    | .symbol "(" :: .symbol ")" :: rest => do
      set rest
      return "()"
    | _ => return (← g.expressionText)

/-- `GROUP BY`, if it is ahead. -/
def groupClause : Parse (Option String) := do
  if ← keywords ["GROUP", "BY"] then
    let items ← if ← keyword "ALL" then pure "ALL" else do
      pure (commaText (← commaSeparated (groupItem g)))
    let modifiers ← repeated do
      if ← keyword "WITH" then
        return some (" WITH " ++ (← expectKeywordOf ["ROLLUP", "CUBE", "TOTALS"]))
      else return none
    return some ("GROUP BY " ++ items ++ String.join modifiers)
  else return none

/-- A list of expressions behind two words, if they are ahead. -/
def listAfter (word : String) : Parse (Option String) := do
  if ← keywords [word, "BY"] then return some (word ++ " BY " ++ Expr.listText (← g.expressions))
  else return none

/-- A window with its name. -/
def namedWindow : Parse String := do
  let n ← name
  expectKeyword "AS"
  if ← symbol "(" then return n.text ++ " AS (" ++ (← window g) ++ ")"
  else return n.text ++ " AS " ++ (← name).text

/-- The named windows, if they are ahead. -/
def windowClause : Parse (Option String) :=
  afterKeyword "WINDOW" do return "WINDOW " ++ commaText (← commaSeparated (namedWindow g))

/-- `START WITH` and `CONNECT BY`, in either order, if one is ahead. -/
def hierarchyClause : Parse (Option String) := do
  if ← atKeyword ["CONNECT"] then
    expectKeywords ["CONNECT", "BY"]
    let relations ← commaSeparated g.relation
    expectKeywords ["START", "WITH"]
    let start ← g.expression
    return some ("START WITH " ++ start.text ++ " CONNECT BY " ++ Expr.listText relations)
  else if ← atKeyword ["START"] then
    expectKeywords ["START", "WITH"]
    let start ← g.expression
    expectKeywords ["CONNECT", "BY"]
    let relations ← commaSeparated g.relation
    return some ("START WITH " ++ start.text ++ " CONNECT BY " ++ Expr.listText relations)
  else return none

/-- **A SELECT**, behind the word. -/
def selectClauses : Parse Select := do
  let distinct ← distinctClause g
  let top ← afterKeyword "TOP" (topClause g)
  let projection ← commaSeparated (selectItem g)
  let into ← afterKeyword "INTO" intoClause
  let sources ← do
    if ← keyword "FROM" then commaSeparated (joinedSource g) else pure []
  let lateralViews ← repeated (lateralView g)
  let prewhere ← afterKeyword "PREWHERE" g.expression
  let selection ← afterKeyword "WHERE" g.expression
  let groupBy ← groupClause g
  let cluster ← listAfter g "CLUSTER"
  let distribute ← listAfter g "DISTRIBUTE"
  let sort ← listAfter g "SORT"
  let having ← afterKeyword "HAVING" g.expression
  let windows ← windowClause g
  let qualify ← afterKeyword "QUALIFY" g.expression
  -- named windows may stand on either side of `QUALIFY`
  let laterWindows ← if windows.isNone && qualify.isSome then windowClause g else pure none
  let hierarchy ← hierarchyClause g
  return {
    distinct := distinct
    top := top
    projection := projection
    into := into
    sources := sources
    lateralViews := lateralViews
    prewhere := prewhere
    selection := selection
    groupBy := groupBy
    distribution := [cluster, distribute, sort].filterMap id
    having := having
    windows := windows.or laterWindows
    qualify := qualify
    windowsFirst := windows.isSome
    hierarchy := hierarchy }

/-! ### Queries -/

/-- What a set operation says about repeated rows and about the order of columns. -/
def setQuantifier : Parse (Option String) :=
  firstOf [["DISTINCT", "BY", "NAME"], ["BY", "NAME"], ["ALL", "BY", "NAME"], ["ALL"],
    ["DISTINCT"]]

/-- The strength of the set operation ahead; zero if none is. -/
def setStrength : List Token → Nat
  | [] => 0
  | t :: _ =>
    if t.keyword = "UNION" ∨ t.keyword = "EXCEPT" then 10
    else if t.keyword = "INTERSECT" then 20
    else 0

/-- A whole table as a query, behind the word: a name of one or two parts. Up to three tokens are
taken. -/
def tableBody : Parse QueryBody := do
  match ← ahead with
  | .word a _ :: .symbol "." :: rest =>
    match rest with
    | .word b _ :: rest => do
      set rest
      return .other ("TABLE " ++ a.value ++ "." ++ b.value)
    | _ => fail "table name"
  | .word a _ :: rest => do
    set (rest.drop 2)
    return .other ("TABLE " ++ a.value)
  | _ => fail "table name"

mutual
/-- A body joined by set operations that bind more tightly than a bound. -/
def queryBody (bound : Nat) : (allowance : Nat) → Parse QueryBody
  | 0 => fail "a query"
  | allowance + 1 => do
    let first ← do
      if ← keyword "SELECT" then pure (.select (← selectClauses g))
      else if ← symbol "(" then
        let q ← g.query
        expectSymbol ")"
        pure (.other ("(" ++ q.text ++ ")"))
      else if ← keyword "VALUES" then valueRows g
      else if ← keyword "TABLE" then tableBody
      else fail "SELECT, VALUES, or a subquery in the query body"
    setOperations bound allowance first
/-- The set operations behind a body. -/
def setOperations (bound : Nat) : (allowance : Nat) → QueryBody → Parse QueryBody
  | 0, left => return left
  | allowance + 1, left => do
    -- an operation of equal strength is left to the caller, so all of them group to the left
    let strength := setStrength (← ahead)
    if strength ≤ bound then return left
    else
      let t ← next "a set operator"
      let quantifier ← setQuantifier
      let right ← queryBody strength allowance
      setOperations bound allowance
        (.other (left.text ++ " " ++ t.keyword ++ spaced quantifier ++ " " ++ right.text))
end

/-- A query of the `WITH` clause. -/
def commonTable : Parse String := do
  let n ← name
  let columns ← if ← atKeyword ["AS"] then pure [] else namesIfAny
  expectKeyword "AS"
  let q ← parenthesized g.query
  let origin ← afterKeyword "FROM" name
  return (TableAlias.mk n columns).text ++ " AS (" ++ q.text ++ ")" ++
    spaced (origin.map fun n => "FROM " ++ n.text)

/-- The `WITH` clause, behind the word. -/
def withClause : Parse String := do
  let recursive := if ← keyword "RECURSIVE" then "RECURSIVE " else ""
  return "WITH " ++ recursive ++ commaText (← commaSeparated (commonTable g))

/-- How many rows to return, behind the word; `ALL` sets no limit. -/
def limitValue : Parse (Option Expr) := do
  if ← keyword "ALL" then return none else return some (← g.expression)

/-- How many rows to skip, behind the word. -/
def offsetValue : Parse Offset := do
  let e ← g.expression
  return ⟨e, ← keywordOf ["ROW", "ROWS"]⟩

/-- **Limit and offset**, in either order; a comma behind the limit makes it the offset of the
number that follows. -/
def limitAndOffset : (rounds : Nat) → Option Expr → Option Offset →
    Parse (Option Expr × Option Offset)
  | 0, limit, offset => return (limit, offset)
  | rounds + 1, limit, offset => do
    let limit ← match limit with
      | some l => pure (some l)
      | none => if ← keyword "LIMIT" then limitValue g else pure none
    let offset ← match offset with
      | some o => pure (some o)
      | none => afterKeyword "OFFSET" (offsetValue g)
    match limit, offset with
    | some l, none =>
      -- `LIMIT 5, 10` skips five rows and returns ten
      if ← symbol "," then
        let count ← g.expression
        limitAndOffset rounds (some count) (some ⟨l, none⟩)
      else limitAndOffset rounds limit offset
    | _, _ => limitAndOffset rounds limit offset

/-- `INTERPOLATE`, if it is ahead. -/
def interpolateClause : Parse (Option String) :=
  afterKeyword "INTERPOLATE" do
    if ← symbol "(" then
      if ← symbol ")" then return "INTERPOLATE ()"
      else
        let items ← commaSeparated do
          let n ← name
          let value ← afterKeyword "AS" g.expressionText
          return n.text ++ spaced (value.map ("AS " ++ ·))
        expectSymbol ")"
        return "INTERPOLATE (" ++ commaText items ++ ")"
    else return "INTERPOLATE"

/-- `FETCH`, behind the word. -/
def fetchClause : Parse String := do
  let _ ← expectKeywordOf ["FIRST", "NEXT"]
  let quantity ← do
    if (← keywordOf ["ROW", "ROWS"]).isSome then pure ""
    else
      let q ← literal
      let percent := if ← keyword "PERCENT" then " PERCENT" else ""
      let _ ← expectKeywordOf ["ROW", "ROWS"]
      pure (q.text ++ percent ++ " ")
  let ties ← do
    if ← keyword "ONLY" then pure "ONLY"
    else if ← keywords ["WITH", "TIES"] then pure "WITH TIES"
    else fail "one of ONLY or WITH TIES"
  return "FETCH FIRST " ++ quantity ++ "ROWS " ++ ties

/-- A lock, behind the word `FOR`. -/
def lockClause : Parse String := do
  let kind ← expectKeywordOf ["UPDATE", "SHARE"]
  let target ← afterKeyword "OF" path
  let wait ← firstOf [["NOWAIT"], ["SKIP", "LOCKED"]]
  return "FOR " ++ kind ++ spaced (target.map fun parts => "OF " ++ pathText parts) ++ spaced wait

/-- A name for an element in parentheses, left as it is between its quotes. -/
def elementName : Parse String := do
  return "('" ++ (← parenthesized textLiteral) ++ "')"

/-- **The form in which documents are returned**: the wishes behind its mode, each behind a
comma. -/
structure DocumentForm where
  /-- Bytes are written as text. -/
  encodesBytes : Bool
  /-- The result keeps its type. -/
  typed : Bool
  /-- The name of the element around the result. -/
  root : Option String
  /-- Columns become elements. -/
  elements : Bool
  /-- Nulls are kept. -/
  keepsNulls : Bool
  /-- No array is put around the result. -/
  unwrapped : Bool

/-- The wishes behind the mode of a document, as far as the allowance goes. A comma may be followed
by no wish at all; of several names for the root the last one counts. -/
def documentWishes (markup : Bool) : (allowance : Nat) → DocumentForm → Parse DocumentForm
  | 0, form => return form
  | allowance + 1, form => do
    if ← symbol "," then
      let word? ← keywordOf
        (if markup then ["ELEMENTS", "BINARY", "ROOT", "TYPE"]
        else ["ROOT", "INCLUDE_NULL_VALUES", "WITHOUT_ARRAY_WRAPPER"])
      let form ← match word? with
        | some "ELEMENTS" => pure { form with elements := true }
        | some "BINARY" => do
          expectKeyword "BASE64"
          pure { form with encodesBytes := true }
        | some "ROOT" => pure { form with root := some (← elementName) }
        | some "TYPE" => pure { form with typed := true }
        | some "INCLUDE_NULL_VALUES" => pure { form with keepsNulls := true }
        | some "WITHOUT_ARRAY_WRAPPER" => pure { form with unwrapped := true }
        | _ => pure form
      documentWishes markup allowance form
    else return form

/-- The canonical text of the wishes. -/
def DocumentForm.text (form : DocumentForm) : String :=
  let wish (holds : Bool) (word : String) := if holds then ", " ++ word else ""
  wish form.encodesBytes "BINARY BASE64" ++ wish form.typed "TYPE" ++
    (form.root.map (", ROOT" ++ ·)).getD "" ++ wish form.elements "ELEMENTS" ++
    wish form.keepsNulls "INCLUDE_NULL_VALUES" ++ wish form.unwrapped "WITHOUT_ARRAY_WRAPPER"

/-- The form in which documents are returned, behind the word `FOR`. -/
def documentClause : Parse (Option String) := do
  let plain : DocumentForm := ⟨false, false, none, false, false, false⟩
  if ← keyword "XML" then
    let mode ← expectKeywordOf ["RAW", "AUTO", "EXPLICIT", "PATH"]
    let element ← do
      if mode = "RAW" ∨ mode = "PATH" then
        if ← atSymbol "(" then elementName else pure ""
      else pure ""
    let form ← documentWishes true ((← ahead).length + 1) plain
    return some ("FOR XML " ++ mode ++ element ++ form.text)
  else if ← keyword "JSON" then
    let mode ← expectKeywordOf ["AUTO", "PATH"]
    let form ← documentWishes false ((← ahead).length + 1) plain
    return some ("FOR JSON " ++ mode ++ form.text)
  else if ← keyword "BROWSE" then return some "FOR BROWSE"
  else return none

/-- The clauses behind the word `FOR`: locks, up to a form for documents. -/
def forClauses : (allowance : Nat) → Parse (List String × Option String)
  | 0 => return ([], none)
  | allowance + 1 => do
    if ← keyword "FOR" then
      match ← documentClause with
      | some d => return ([], some d)
      | none =>
        let lock ← lockClause
        let (locks, document) ← forClauses allowance
        return (lock :: locks, document)
    else return ([], none)

/-- `FORMAT`, behind the word. -/
def formatClause : Parse String := do
  if ← keyword "NULL" then return "FORMAT NULL" else return "FORMAT " ++ (← name).text

/-- A query that is its body alone. -/
def Query.ofBody (with? : Option String) (body : QueryBody) : Query :=
  ⟨with?, body, [], none, none, none, [], none, none, [], none, none⟩

/-- **The clauses of a query**, behind the `WITH` clause. -/
def queryClauses (with? : Option String) : Parse Query := do
  let body ← queryBody g 0 ((← ahead).length + 1)
  let order ← orderItems g
  let interpolate ← if order.isEmpty then pure none else interpolateClause g
  let (limit, offset) ← limitAndOffset g 2 none none
  let limitBy ← if ← keyword "BY" then g.expressions else pure []
  let settings ← afterKeyword "SETTINGS" settingsClause
  let fetch ← afterKeyword "FETCH" fetchClause
  let (locks, document) ← forClauses ((← ahead).length + 1)
  let format ← afterKeyword "FORMAT" formatClause
  return ⟨with?, body, order, interpolate, limit, offset, limitBy, settings, fetch, locks,
    document, format⟩

end Pushdown.Sql
