import Pushdown.Error
import Pushdown.Text.Blank

/-!
# Columns of a table

A table declares its columns in an order, each with a type. The type decides how two cells compare,
whatever kind of value a remote side has sent. A column can be **filter only**: a condition may name
it for the remote side to act on, but no row carries it.

A reference to a column is a dotted path. A declared name wins, so `replies.user_id` can be a column
of its own; otherwise the part before the first point has to be a column of documents, and the path
names a place inside.
-/

namespace Pushdown

/-! ### Types -/

/-- **The declared type of a column.** -/
inductive ColumnType where
  /-- Text. -/
  | text
  /-- Whole numbers. -/
  | integer
  /-- Numbers. -/
  | float
  /-- Truth values. -/
  | boolean
  /-- Moments. -/
  | timestamp
  /-- Documents of any shape. -/
  | json
  /-- Lists of numbers. -/
  | vector
  deriving DecidableEq, Repr

namespace ColumnType

/-- All types. -/
def all : List ColumnType := [text, integer, float, boolean, timestamp, json, vector]

/-- The word for a type. -/
def name : ColumnType → String
  | text => "text"
  | integer => "integer"
  | float => "float"
  | boolean => "boolean"
  | timestamp => "timestamp"
  | json => "json"
  | vector => "vector"

/-- The type that a word stands for. -/
def ofName? (s : String) : Option ColumnType := all.find? fun t => t.name == s

/-- Cells of the type are numbers. -/
def isNumeric : ColumnType → Bool
  | integer => true
  | float => true
  | _ => false

/-- Cells of the type hold no arrays and no objects. -/
def isScalar : ColumnType → Bool
  | json => false
  | vector => false
  | _ => true

/-- **The type that a sample value suggests.** -/
def ofSample : Json → ColumnType
  | .bool _ => boolean
  | .number (.int _) => integer
  | .number (.float _) => float
  | .array (item :: items) => if (item :: items).all Json.isNumber then vector else json
  | .array [] => json
  | .object _ => json
  | .string _ => text
  | .null => text

/-- Every type is found by its word. -/
theorem ofName?_name (t : ColumnType) : ofName? t.name = some t := by
  cases t <;> decide

end ColumnType

/-! ### Schemas -/

/-- **A declared column.** -/
structure Column where
  /-- The name. -/
  name : String
  /-- The type. -/
  type : ColumnType
  /-- Conditions may name the column, but no row carries it. -/
  filterOnly : Bool
  deriving DecidableEq, Repr

/-- A column that rows carry. -/
def Column.output (name : String) (type : ColumnType) : Column := ⟨name, type, false⟩

/-- A column for conditions only. -/
def Column.condition (name : String) (type : ColumnType) : Column := ⟨name, type, true⟩

/-- **The columns of a table, in their order.** -/
structure Schema where
  /-- The name of the table. -/
  table : String
  /-- The columns. -/
  columns : List Column
  deriving DecidableEq, Repr

namespace Schema

/-- The declared column of a name. -/
def column? (s : Schema) (name : String) : Option Column := s.columns.find? (·.name == name)

/-- The names of the columns that rows carry, in order. -/
def outputColumns (s : Schema) : List String :=
  (s.columns.filter (!·.filterOnly)).map (·.name)

/-- Rows carry a column of this name. -/
def isOutput (s : Schema) (name : String) : Bool := (s.column? name).any (!·.filterOnly)

/-- The name is declared for conditions only. -/
def isFilterOnly (s : Schema) (name : String) : Bool := (s.column? name).any (·.filterOnly)

/-- The part of a path before its first point, if it has one. -/
def pathHead? (path : String) : Option String :=
  (Text.splitFirst '.' path.toList).map fun parts => String.ofList parts.1

/-- **The type of a reference.** -/
def resolve (s : Schema) (path : String) : Option ColumnType :=
  match s.column? path with
  | some c => some c.type
  | none =>
    match (pathHead? path).bind s.column? with
    | some c => if c.type = .json then some .json else none
    | none => none

/-- The type of a reference that has to be resolved. -/
def require (s : Schema) (path : String) (place : ColumnUse) : Except QueryError ColumnType :=
  match s.resolve path with
  | some t => .ok t
  | none => .error (.unknownColumn path place)

/-! ### Inference -/

/-- **One more sample for the columns found so far.** A new key is a new column at the end; a column
of texts takes the type of the first later value that is neither null nor a text. -/
def withSample (columns : List Column) (key : String) (value : Json) : List Column :=
  match columns with
  | [] => [.output key (.ofSample value)]
  | c :: rest =>
    if c.name = key then
      (if c.type = .text && !value.isNull && !value.isString then
        { c with type := .ofSample value } else c) :: rest
    else c :: withSample rest key value

/-- **The schema that records suggest**: all keys in the order of their first appearance. -/
def infer (table : String) (records : List Record) : Schema :=
  ⟨table, records.foldl (fun columns record =>
    record.foldl (fun columns entry => withSample columns entry.1 entry.2) columns) []⟩

theorem require_eq_ok_iff {s : Schema} {path : String} {place : ColumnUse} {t : ColumnType} :
    s.require path place = .ok t ↔ s.resolve path = some t := by
  unfold require
  cases s.resolve path <;> simp

end Schema

end Pushdown
