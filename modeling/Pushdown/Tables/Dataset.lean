import Pushdown.Json.Reader
import Pushdown.Tables.Table
import Pushdown.Text.Blank

/-!
# Datasets

A dataset is a list of records in a text: either one JSON array, or one JSON value per line. Its
table holds the records as its only page and does all the work locally. Unless a schema is given,
the columns are those that the records suggest, and every record has to be an object.

The text's leading blanks are dropped before it is taken apart into lines, and lines are counted
from there. Blank lines are skipped but counted.
-/

namespace Pushdown.Dataset

open Number

/-! ### Reading -/

/-- The record of a line, by the line's position. -/
def readLine (line : Nat × List Char) : Except QueryError Json :=
  match Json.read line.2 with
  | .ok v => .ok v
  | .error e =>
    .error (.invalid ("bad JSON on line " ++ intText (line.1 + 1) ++ ": " ++ e.message))

/-- Items with their positions, the first at a given one. -/
def numberedFrom {α : Type} (start : Nat) : List α → List (Nat × α)
  | [] => []
  | a :: as => (start, a) :: numberedFrom (start + 1) as

/-- The records of lines; blank lines have none. -/
def readLines (lines : List (List Char)) : Except QueryError (List Json) :=
  ((numberedFrom 0 lines).filter fun line => !Text.isBlankText line.2).mapM readLine

/-- The records of one array. -/
def readArray (cs : List Char) : Except QueryError (List Json) :=
  match Json.read cs with
  | .ok (.array items) => .ok items
  | .ok _ => .error (.invalid "bad JSON dataset: not an array")
  | .error e => .error (.invalid ("bad JSON dataset: " ++ e.message))

/-- **The records of a text.** -/
def read (text : String) : Except QueryError (List Json) :=
  match Text.trimStart text.toList with
  | '[' :: rest => readArray ('[' :: rest)
  | cs => readLines (Text.lines cs)

/-! ### Tables -/

/-- The records as objects, each in its place. -/
def objectsFrom (name : String) (index : Nat) : List Json → Except QueryError (List Record)
  | [] => .ok []
  | .object r :: rest => (objectsFrom name (index + 1) rest).map (r :: ·)
  | v :: _ => .error (.schemaMismatch (name ++ "[" ++ intText index ++ "]") "object" v.kind)

/-- **The schema of a dataset**: the given one, or the one that the records suggest. -/
def schemaFor (name : String) (given : Option Schema) (records : List Json) :
    Except QueryError Schema :=
  match given with
  | some s => .ok s
  | none => (objectsFrom name 0 records).map (Schema.infer name)

/-- The pipeline of a dataset: nothing is left to a remote side. -/
def pipeline (schema : Schema) : Pipeline := ⟨schema, .nothing, none, none⟩

/-- **The table of a dataset.** -/
def table {σ : Type} (name : String) (given : Option Schema) (records : List Json) :
    Except QueryError (Table σ) := do
  let schema ← schemaFor name given records
  return .ofPipeline (pipeline schema) (.ofRecords records)

/-! ### Files -/

/-- The part of a file's name before its last point; a point at the start does not count. -/
def stemOf (name : List Char) : List Char :=
  let (ending, rest) := name.reverse.span (· != '.')
  match rest with
  | _ :: before => if before.isEmpty then name else before.reverse
  | [] => ending.reverse

/-- The last step of a path. Empty steps and steps that stay do not count; a step that goes up has
no name. -/
def fileName? (path : String) : Option (List Char) :=
  let steps := (Text.splitOn '/' path.toList).filter fun step => step ≠ [] ∧ step ≠ ['.']
  match steps.getLast? with
  | some ['.', '.'] => none
  | last => last

/-- **The name of a file's table.** -/
def tableName? (path : String) : Option String :=
  (fileName? path).map fun n => String.ofList (stemOf n)

/-- **The table of a file**, given what reading the file led to. -/
def tableOfFile {σ : Type} (path : String) (content : Except String String) :
    Except QueryError (Table σ) :=
  match tableName? path with
  | none => .error (.invalid ("cannot name a table after " ++ path))
  | some name =>
    match content with
    | .error cause => .error (.connection (path ++ ": " ++ cause))
    | .ok text => do
      let records ← read text
      table name none records

end Pushdown.Dataset
