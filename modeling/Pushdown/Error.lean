import Pushdown.Json.Value
import Pushdown.Number.Decimal
import Pushdown.Operator
import Pushdown.Sql.Lexer

/-!
# Causes of failure

A statement fails for one of ten causes, and a request to a remote side for one of six. Both are
kept as causes with their data; the words are in `QueryError.message` and `FetchError.message`
alone. Where the cause is that a reference cannot be resolved, or that a value is not of the kind
that its place asks for, the place is part of the cause.
-/

namespace Pushdown

open Number

/-! ### Requests -/

/-- **Why a request to a remote side failed.** -/
inductive FetchError where
  /-- The request did not get through. -/
  | transport (detail : String)
  /-- The remote side refused with a status code. -/
  | status (code : Nat) (body : String)
  /-- The remote side asks for fewer requests. -/
  | rateLimited
  /-- No answer came in time. -/
  | timedOut
  /-- The answer could not be read. -/
  | decode (detail : String)
  /-- The answer broke the rules of the conversation. -/
  | protocol (detail : String)
  deriving DecidableEq, Repr

/-- The words for a failed request. -/
def FetchError.message : FetchError → String
  | .transport detail => "transport: " ++ detail
  | .status code body => "status " ++ intText code ++ ": " ++ body
  | .rateLimited => "rate limited"
  | .timedOut => "timed out"
  | .decode detail => "decode: " ++ detail
  | .protocol detail => "protocol: " ++ detail

/-! ### Statements -/

/-- Where a column was named. -/
inductive ColumnUse where
  /-- Among the columns asked for. -/
  | projection
  /-- In a condition. -/
  | filter
  /-- In the order. -/
  | order
  /-- Among the columns of an insertion. -/
  | insert
  /-- As the target of an assignment. -/
  | update
  deriving DecidableEq, Repr

/-- The words for a place where a column was named. -/
def ColumnUse.text : ColumnUse → String
  | .projection => "projection"
  | .filter => "filter"
  | .order => "order by"
  | .insert => "insert"
  | .update => "update"

/-- **Why a statement failed.** -/
inductive QueryError where
  /-- The text is not a statement. -/
  | parse (cause : Sql.SyntaxError)
  /-- The statement has a shape that no table supports. -/
  | unsupportedStatement (what : String)
  /-- The filter has a shape that no table supports. -/
  | unsupportedFilter (what : String)
  /-- A remote side has no such operator for a column. -/
  | unsupportedOperator (op : Operator) (column target : String)
  /-- No such column can be used in this place. -/
  | unknownColumn (column : String) (place : ColumnUse)
  /-- The rows asked for reach too far. -/
  | windowOutOfRange (limit offset ceiling : Nat)
  /-- A request failed after some pages. -/
  | remoteFetch (page offset : Nat) (cause : FetchError)
  /-- A value is not of the expected kind. -/
  | schemaMismatch (field expected found : String)
  /-- The query cannot be carried out as written. -/
  | invalid (what : String)
  /-- A store or a file could not be reached. -/
  | connection (detail : String)
  deriving DecidableEq, Repr

/-- **The words for a failed statement.** -/
def QueryError.message : QueryError → String
  | .parse cause => "parse error: " ++ cause.message
  | .unsupportedStatement what => "unsupported statement: " ++ what
  | .unsupportedFilter what => "unsupported filter: " ++ what
  | .unsupportedOperator op column target =>
    "operator '" ++ op.sign ++ "' is not supported on column '" ++ column ++ "' by " ++ target
  | .unknownColumn column place => "unknown column '" ++ column ++ "' in " ++ place.text
  | .windowOutOfRange limit offset ceiling =>
    "limit " ++ intText limit ++ " + offset " ++ intText offset ++ " must be less than " ++
      intText ceiling
  | .remoteFetch page offset cause =>
    "remote fetch failed on page " ++ intText page ++ " (after " ++ intText offset ++
      " records): " ++ cause.message
  | .schemaMismatch field expected found =>
    "schema mismatch on '" ++ field ++ "': expected " ++ expected ++ ", found " ++ found
  | .invalid what => "invalid query: " ++ what
  | .connection detail => "connection error: " ++ detail

/-- The cause for a value that is not of the expected kind. -/
def QueryError.mismatch (field expected : String) (found : Json) : QueryError :=
  .schemaMismatch field expected found.kind

end Pushdown
