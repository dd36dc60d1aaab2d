import Pushdown.Sql.Lexer
import Pushdown.Sql.Syntax
import Pushdown.Number.Decimal

/-!
# Reading a list of tokens

A reader takes tokens off the front of a list and gives a result, or fails without one. Where the
grammar is ambiguous, `attempt` tries a reader and forgets its failure together with everything it
read. Lists between commas are read with an allowance that the number of tokens covers.

The grammar is recursive: an expression holds expressions, types and queries, a query holds
expressions, and a statement may hold statements. A `Grammar` has the readers of what stands inside;
the readers of this folder take one as an argument and never call themselves, so that the whole
grammar is built in one place. Statements, queries and whole expressions are counted as levels, and
only so many may stand inside each other; an operand, a type and the right side of an operator stay
on the level they stand on.
-/

namespace Pushdown.Sql

/-- **A reader** of tokens. -/
abbrev Parse := StateT (List Token) (Except SyntaxError)

namespace Parse

variable {α : Type}

/-! ### Single tokens -/

/-- Fails where something else was wanted. -/
def fail (wanted : String) : Parse α := fun ts =>
  .error (.expected wanted ((ts.head?.map Token.text).getD ""))

/-- The tokens ahead. -/
def ahead : Parse (List Token) := get

/-- Takes one token. -/
def next (wanted : String) : Parse Token := do
  match ← ahead with
  | [] => fail wanted
  | t :: ts => do
    set ts
    return t

/-- Takes a keyword if it stands next. -/
def keyword (k : String) : Parse Bool := do
  match ← ahead with
  | t :: ts =>
    if t.keyword = k then do
      set ts
      return true
    else return false
  | [] => return false

/-- What follows a sequence of keywords. -/
def afterKeywords : List String → List Token → Option (List Token)
  | [], ts => some ts
  | _ :: _, [] => none
  | k :: ks, t :: ts => if t.keyword = k then afterKeywords ks ts else none

/-- Takes a sequence of keywords, all or none. -/
def keywords (ks : List String) : Parse Bool := do
  match afterKeywords ks (← ahead) with
  | some ts => do
    set ts
    return true
  | none => return false

/-- Takes one of several keywords if one stands next. -/
def keywordOf (ks : List String) : Parse (Option String) := do
  match ← ahead with
  | t :: ts =>
    if t.keyword ∈ ks then do
      set ts
      return some t.keyword
    else return none
  | [] => return none

/-- The next token is one of several keywords. -/
def atKeyword (ks : List String) : Parse Bool := do
  return (← ahead).head?.any fun t => ks.contains t.keyword

/-- Takes a keyword that has to stand next. -/
def expectKeyword (k : String) : Parse Unit := do
  if ← keyword k then return () else fail k

/-- Takes a sequence of keywords, each of which has to stand next. -/
def expectKeywords (ks : List String) : Parse Unit := ks.forM expectKeyword

/-- Takes one of several keywords, one of which has to stand next. -/
def expectKeywordOf (ks : List String) : Parse String := do
  match ← keywordOf ks with
  | some k => return k
  | none => fail (String.intercalate " or " ks)

/-- Takes a sign if it stands next. -/
def symbol (s : String) : Parse Bool := do
  match ← ahead with
  | .symbol t :: ts =>
    if t = s then do
      set ts
      return true
    else return false
  | _ => return false

/-- The first of several word sequences that stands ahead. -/
def firstOf : List (List String) → Parse (Option String)
  | [] => return none
  | ks :: rest => do
    if ← keywords ks then return some (String.intercalate " " ks) else firstOf rest

/-- The first of several word sequences, one of which has to stand next. -/
def expectFirstOf (sequences : List (List String)) : Parse String := do
  match ← firstOf sequences with
  | some words => return words
  | none => fail (String.intercalate " or " (sequences.map (String.intercalate " ")))

/-- The next token is a sign. -/
def atSymbol (s : String) : Parse Bool := do
  return (← ahead).head? == some (.symbol s)

/-- Takes a sign that has to stand next. -/
def expectSymbol (s : String) : Parse Unit := do
  if ← symbol s then return () else fail s

/-! ### Combinations -/

/-- Tries a reader and goes back to the start if it fails. -/
def attempt (p : Parse α) : Parse (Option α) := fun ts =>
  match p ts with
  | .ok (a, rest) => .ok (some a, rest)
  | .error _ => .ok (none, ts)

/-- A reader that is run if a keyword stands next. -/
def afterKeyword (k : String) (p : Parse α) : Parse (Option α) := do
  if ← keyword k then return some (← p) else return none

/-- A list between commas, as far as the allowance goes. -/
def commaSeparatedWithin (p : Parse α) : (allowance : Nat) → Parse (List α)
  | 0 => fail "fewer items"
  | allowance + 1 => do
    let first ← p
    if ← symbol "," then return first :: (← commaSeparatedWithin p allowance) else return [first]

/-- **A list between commas**, of at least one item. -/
def commaSeparated (p : Parse α) : Parse (List α) := do
  commaSeparatedWithin p ((← ahead).length + 1)

/-- Repeats a reader until it gives nothing, as far as the allowance goes. -/
def repeatedWithin (p : Parse (Option α)) : (allowance : Nat) → Parse (List α)
  | 0 => return []
  | allowance + 1 => do
    match ← p with
    | none => return []
    | some a => return a :: (← repeatedWithin p allowance)

/-- Repeats a reader until it gives nothing. -/
def repeated (p : Parse (Option α)) : Parse (List α) := do
  repeatedWithin p ((← ahead).length + 1)

/-- A reader between parentheses. -/
def parenthesized (p : Parse α) : Parse α := do
  expectSymbol "("
  let a ← p
  expectSymbol ")"
  return a

/-! ### Names and literals -/

/-- A name: a word, or a text in single quotes. -/
def name : Parse Name := do
  match ← next "identifier" with
  | .word n _ => return n
  | .quoted s => return ⟨s, some '\''⟩
  | t => fail ("identifier instead of " ++ t.text)

/-- Further parts of a name, each behind a point. -/
def nameParts : (allowance : Nat) → Parse (List Name)
  | 0 => return []
  | allowance + 1 => do
    if ← symbol "." then
      let n ← name
      return n :: (← nameParts allowance)
    else return []

/-- A name of several parts. -/
def path : Parse (List Name) := do
  let n ← name
  return n :: (← nameParts ((← ahead).length + 1))

/-- A list of names in parentheses. -/
def names : Parse (List Name) := parenthesized (commaSeparated name)

/-- A list of names in parentheses, or nothing. -/
def namesIfAny : Parse (List Name) := do
  if ← atSymbol "(" then names else return []

/-- A text literal. A word that no grammar knows may stand for one. -/
def textLiteral : Parse String := do
  let t ← next "literal string"
  match t with
  | .quoted s => return s
  | .literal .escaped s => return s
  | .literal .unicode s => return s
  | t =>
    match t.plainWord? with
    | some n => return n.value
    | none => fail ("literal string instead of " ++ t.text)

/-- A number without sign or fraction. -/
def natural : Parse Nat := do
  match ← next "literal int" with
  | .number digits _ =>
    match Number.readNat64? digits.toList with
    | some n => return n
    | none => fail "literal int"
  | _ => fail "literal int"

/-- A number without sign or fraction that fits into 32 bits. -/
def smallNatural : Parse Nat := do
  let n ← natural
  if n < 4294967296 then return n else fail "literal int"

/-- **A literal.** A colon or an at sign makes a parameter of the word or number behind it. -/
def literal : Parse Expr := do
  let t ← next "a value"
  match t with
  | .number digits long => return .number digits long
  | .quoted s => return .quoted s
  | .literal .. => return .verbatim t.text
  | .placeholder s => return .verbatim s
  | .word n k =>
    if k = "TRUE" then return .boolean true
    else if k = "FALSE" then return .boolean false
    else if k = "NULL" then return .null
    else if n.quote = some '"' then return .verbatim n.text
    else fail "a concrete value"
  | .symbol s =>
    if s = ":" ∨ s = "@" then
      match ← next "placeholder" with
      | .word n _ => return .verbatim (s ++ n.value)
      | .number digits false => return .verbatim (s ++ digits)
      | _ => fail "placeholder"
    else fail "a value"

/-- A word as alias: any after `AS`, one that is not reserved without it. A text in single quotes
serves too. -/
def aliasUnless (reserved : List String) : Parse (Option Name) := do
  let marked ← keyword "AS"
  match ← ahead with
  | .word n k :: ts =>
    if marked ∨ k ∉ reserved then do
      set ts
      return some n
    else return none
  | .quoted s :: ts => do
    set ts
    return some ⟨s, some '\''⟩
  | _ => if marked then fail "an identifier after AS" else return none

end Parse

/-- **The readers of what stands inside.** -/
structure Grammar where
  /-- An expression whose operators bind more tightly than a bound, on the same level. -/
  operation : (bound : Nat) → Parse Expr
  /-- An operand without operators behind it, on the same level. -/
  operand : Parse Expr
  /-- A data type, on the same level. It may close the type around it. -/
  innerType : Parse DataType
  /-- A whole expression, one level down. -/
  expression : Parse Expr
  /-- An expression that relates the rows of a hierarchy, one level down. -/
  relation : Parse Expr
  /-- A query, one level down. -/
  query : Parse Query
  /-- A statement, one level down. -/
  statement : Parse Statement
  /-- `PRIOR` may stand before an operand, as it may inside a relation of a hierarchy. -/
  allowsPrior : Bool

namespace Grammar

variable (g : Grammar)

/-- Expressions between commas. -/
def expressions : Parse (List Expr) := Parse.commaSeparated g.expression

/-- The text of an expression. -/
def expressionText : Parse String := do return (← g.expression).text

/-- A data type that leaves nothing around it closed. -/
def dataType : Parse DataType := do
  let t ← g.innerType
  if t.closesOuter then Parse.fail "a data type without a further >" else return t

end Grammar

end Pushdown.Sql
