import Pushdown.Sql.DataType

/-!
# Operators and what they are applied to

Expressions are read by operator precedence: an operand, then as long as the next operator binds
more tightly than the bound the operator and its right side. `bindingStrength` is the table of
strengths. An operator of equal strength is left to the caller, so operators group to the left. Most
operators mean nothing to the engine; what they are applied to is reduced to its canonical text.

An interval is here too, because its value is an operand with the operators behind it.
-/

namespace Pushdown.Sql

open Parse

/-! ### Operators -/

/-- Signs of comparisons and patterns. -/
def comparisonSigns : List String :=
  ["=", "<", "<=", "<>", ">", ">=", "==", "~", "~*", "!~", "!~*", "~~", "~~*", "!~~", "!~~*", "<=>"]

/-- Signs of access to documents. -/
def documentSigns : List String := ["->", "->>", "#>", "#>>", "@>", "<@", "#-", "@?", "@@"]

/-- Words of pattern matches. -/
def patternWords : List String := ["LIKE", "ILIKE", "RLIKE", "REGEXP", "SIMILAR"]

/-- **How tightly the operator ahead binds**; zero if none is ahead. -/
def bindingStrength : List Token → Nat
  | [] => 0
  | .symbol s :: _ =>
    if s ∈ comparisonSigns then 20
    else if s = "|" then 21
    else if s ∈ ["^", "#", ">>", "<<"] then 22
    else if s = "&" then 23
    else if s ∈ ["+", "-"] then 30
    else if s ∈ ["*", "/", "//", "%", "||"] then 40
    else if s ∈ ["::", "!", "[", "&&", "^@"] then 50
    else if s ∈ documentSigns then 16
    else 0
  | t :: ts =>
    let k := t.keyword
    let following := (ts.head?.map Token.keyword).getD ""
    if k = "OR" then 5
    else if k = "AND" then 10
    else if k = "XOR" then 24
    else if k = "AT" then
      if (afterKeywords ["TIME", "ZONE"] ts).isSome then 41 else 0
    else if k = "NOT" then
      if following ∈ ["IN", "BETWEEN"] then 20
      else if following ∈ patternWords then 19
      else 0
    else if k = "IS" then 17
    else if k ∈ ["IN", "BETWEEN", "OPERATOR"] then 20
    else if k ∈ patternWords then 19
    else if k = "DIV" then 40
    else 0

/-- The operators that the engine knows, by sign. -/
def knownOperator : String → Option BinaryOp
  | "=" => some .eq
  | "==" => some .eq
  | "<>" => some .notEq
  | "<" => some .lt
  | "<=" => some .le
  | ">" => some .gt
  | ">=" => some .ge
  | _ => none

/-- Signs of operators that the engine does not know. -/
def otherSigns : List String :=
  ["<=>", "+", "-", "*", "%", "||", "|", "^", "&", "/", "//", "<<", ">>", "^@", "~", "~*", "!~",
   "!~*", "~~", "~~*", "!~~", "!~~*", "&&"] ++ documentSigns

/-- An operator between two operands: one that the engine knows, or the text of another. -/
inductive Operator? where
  /-- A known operator. -/
  | known (op : BinaryOp)
  /-- Another operator, by its sign. -/
  | other (sign : String)

/-- Two operands joined by an operator. -/
def joined (l : Expr) (op : Operator?) (r : Expr) : Expr :=
  match op with
  | .known op => .binary l op r
  | .other sign => .verbatim (l.text ++ " " ++ sign ++ " " ++ r.text)

/-- Parts of a qualified operator, between points. -/
def operatorParts : (allowance : Nat) → Parse (List String)
  | 0 => fail "an operator"
  | allowance + 1 => do
    let t ← next "an operator"
    if ← symbol "." then return t.plainText :: (← operatorParts allowance)
    else return [t.plainText]

/-- Takes the operator that a token opens, if it joins two operands. -/
def operatorFrom (t : Token) : Parse (Option Operator?) := do
  match t with
  | .symbol s =>
    match knownOperator s with
    | some op => return some (.known op)
    | none => if s ∈ otherSigns then return some (.other s) else return none
  | t =>
    let k := t.keyword
    if k = "AND" then return some (.known .and)
    else if k = "OR" then return some (.known .or)
    else if k = "XOR" then return some (.other "XOR")
    else if k = "OPERATOR" then
      let parts ← parenthesized do operatorParts ((← ahead).length + 1)
      return some (.other ("OPERATOR(" ++ String.intercalate "." parts ++ ")"))
    else return none

/-! ### Operators behind an operand -/

variable (g : Grammar)

/-- The character that escapes wildcards in a pattern. -/
def escapeClause : Parse (Option String) :=
  afterKeyword "ESCAPE" do return "ESCAPE '" ++ (← textLiteral) ++ "'"

/-- `IN`, behind the word. -/
def membership (e : Expr) (negated : Bool) : Parse Expr := do
  let before := e.text ++ " " ++ notText negated
  if ← keyword "UNNEST" then
    let items ← parenthesized g.expression
    return .verbatim (before ++ "IN UNNEST(" ++ items.text ++ ")")
  else
    parenthesized do
      if ← atKeyword ["SELECT", "WITH"] then
        return .verbatim (before ++ "IN (" ++ (← g.query).text ++ ")")
      else return .inList e (← g.expressions) negated

/-- The tests behind `IS`, with the words that spell them. -/
def isTests : List (List String) :=
  [["NULL"], ["NOT", "NULL"], ["TRUE"], ["NOT", "TRUE"], ["FALSE"], ["NOT", "FALSE"], ["UNKNOWN"],
   ["NOT", "UNKNOWN"]]

/-- `IS`, behind the word. -/
def isTest (e : Expr) : Parse Expr := do
  match ← firstOf isTests with
  | some words => return .verbatim (e.text ++ " IS " ++ words)
  | none =>
    match ← firstOf [["DISTINCT", "FROM"], ["NOT", "DISTINCT", "FROM"]] with
    | some words => return .verbatim (e.text ++ " IS " ++ words ++ " " ++ (← g.expressionText))
    | none => fail "[NOT] NULL or TRUE|FALSE or [NOT] DISTINCT FROM after IS"

/-- Membership, ranges and patterns, from an optional `NOT` on. -/
def predicate (e : Expr) : Parse Expr := do
  let negated ← keyword "NOT"
  let before := e.text ++ " " ++ notText negated
  match ← firstOf [["REGEXP", "RLIKE"], ["REGEXP"], ["RLIKE"]] with
  | some words =>
    -- the first of the two words is the one that stays
    let word := if words = "RLIKE" then "RLIKE" else "REGEXP"
    return .verbatim (before ++ word ++ " " ++ (← g.operation 19).text)
  | none =>
    if ← keyword "IN" then membership g e negated
    else if ← keyword "BETWEEN" then
      let low ← g.operation 20
      expectKeyword "AND"
      return .verbatim (before ++ "BETWEEN " ++ low.text ++ " AND " ++ (← g.operation 20).text)
    else if ← keyword "LIKE" then
      let pattern ← g.operation 19
      match ← escapeClause with
      | none => return .like e pattern negated
      | some escape => return .verbatim (before ++ "LIKE " ++ pattern.text ++ " " ++ escape)
    else
      let word ← do
        if ← keyword "ILIKE" then pure "ILIKE"
        else
          expectKeywords ["SIMILAR", "TO"]
          pure "SIMILAR TO"
      let pattern ← g.operation 19
      return .verbatim (before ++ word ++ " " ++ pattern.text ++ spaced (← escapeClause))

/-- A subscript or a slice, behind its opening bracket. -/
def subscript (e : Expr) : Parse Expr := do
  let lower ← do
    if ← symbol ":" then pure none
    else
      let i ← g.expression
      pure (some i.text)
  let whole (inner : String) : Expr := .verbatim (e.text ++ "[" ++ inner ++ "]")
  let before := lower.getD ""
  if ← symbol "]" then return whole (before ++ if lower.isNone then ":" else "")
  else
    if lower.isSome then expectSymbol ":"
    if ← symbol "]" then return whole (before ++ ":")
    else
      let upper ← g.expression
      if ← symbol "]" then return whole (before ++ ":" ++ upper.text)
      else
        expectSymbol ":"
        if ← symbol "]" then return whole (before ++ ":" ++ upper.text)
        else
          let stride ← g.expression
          expectSymbol "]"
          return whole (before ++ ":" ++ upper.text ++ ":" ++ stride.text)

/-- A comparison with any or all of several values, behind the word. -/
def quantified (e : Expr) (op : Operator?) (word : String) (strength : Nat) : Parse Expr := do
  let right ← parenthesized (g.operation strength)
  match op with
  | .known op =>
    if op = .and ∨ op = .or then fail "a comparison operator"
    else return .verbatim (e.text ++ " " ++ op.text ++ " " ++ word ++ "(" ++ right.text ++ ")")
  | .other _ => fail "a comparison operator"

/-- **The operator ahead, applied to the operand before it.** -/
def withOperator (e : Expr) (strength : Nat) : Parse Expr := do
  let start ← ahead
  let t ← next "an operator"
  match ← operatorFrom t with
  | some op =>
    match ← keywordOf ["ANY", "ALL"] with
    | some word => quantified g e op word strength
    | none => return joined e op (← g.operation strength)
  | none =>
    let k := t.keyword
    if k = "IS" then isTest g e
    else if k = "AT" then
      expectKeywords ["TIME", "ZONE"]
      return .verbatim (e.text ++ " AT TIME ZONE " ++ (← g.operation strength).text)
    -- a predicate starts at its optional `NOT`, which has just been taken
    else if k ∈ ["NOT", "IN", "BETWEEN"] ++ patternWords then do
      set start
      predicate g e
    else
      match t with
      | .symbol "::" => return .verbatim (e.text ++ "::" ++ (← g.dataType).text)
      | .symbol "!" => return .verbatim (e.text ++ "!")
      | .symbol "[" => subscript g e
      | _ => fail "an operator"

/-- Applies the operators ahead that bind more tightly than a bound. Where `stops` holds of the
tokens ahead, no operator is taken. -/
def withOperators (stops : List Token → Bool) (bound : Nat) : (allowance : Nat) → Expr → Parse Expr
  | 0, e => return e
  | allowance + 1, e => do
    let ts ← ahead
    let strength := bindingStrength ts
    if strength ≤ bound ∨ stops ts then return e
    else withOperators stops bound allowance (← withOperator g e strength)

/-! ### Intervals -/

/-- A field of a time, in its canonical spelling if it has one. -/
def dateTimeField : Parse String := do
  match ← ahead with
  | .word _ k :: rest =>
    if k = "WEEK" then do
      set rest
      if ← atSymbol "(" then return "WEEK(" ++ (← parenthesized name).text ++ ")"
      else return "WEEK"
    else if k ∈ dateTimeFields then do
      set rest
      return k
    else return (← name).text
  | _ => return (← name).text

/-- A precision in parentheses. -/
def precision : Parse (Option Nat) := do
  if ← symbol "(" then
    let n ← natural
    expectSymbol ")"
    return some n
  else return none

/-- A number in parentheses, after a space. -/
def precisionText (n : Option Nat) : String :=
  spaced (n.map fun n => "(" ++ Number.intText n ++ ")")

/-- `INTERVAL`, behind the word: a value and an optional range of units. The value may have
operators behind it, but not a logical one. -/
def interval : Parse Expr := do
  let first ← g.operand
  let logical (ts : List Token) := ts.head?.any fun t => ["AND", "OR", "XOR"].contains t.keyword
  let value ← withOperators g logical 0 ((← ahead).length + 1) first
  let before := "INTERVAL " ++ value.text
  let leading ← do
    if ← atKeyword temporalUnits then pure (some (← dateTimeField)) else pure none
  if leading = some "SECOND" then
    if ← symbol "(" then
      let n ← natural
      if ← symbol "," then
        let m ← natural
        expectSymbol ")"
        return .verbatim (before ++ " SECOND (" ++ Number.intText n ++ ", " ++
          Number.intText m ++ ")")
      else
        expectSymbol ")"
        return .verbatim (before ++ " SECOND" ++ precisionText (some n))
    else return .verbatim (before ++ " SECOND")
  else
    let n ← precision
    let last ← afterKeyword "TO" do
      let field ← dateTimeField
      let m ← if field = "SECOND" then precision else pure none
      return "TO " ++ field ++ precisionText m
    return .verbatim (before ++ spaced leading ++ precisionText n ++ spaced last)

end Pushdown.Sql
