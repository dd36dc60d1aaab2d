import Pushdown.Error
import Pushdown.Schema

/-!
# From payloads to rows

What a remote side delivers is any JSON. A record of it becomes rows that carry exactly the declared
columns, in the declared order:

* objects under keys that are not declared are flattened by one level, `source` with `title` to
  `source.title`;
* if the table **explodes** a field, the record becomes one row per element of the list under that
  field, the element's keys flattened to `field.key`; a record without elements is one row;
* whatever is not declared is dropped, and whatever is missing is null.

An array or an object under a column of a scalar type is refused, and so is a record that is no
object.
-/

namespace Pushdown

open Number

/-- **How payloads become rows.** -/
structure Shape where
  /-- The declared columns. -/
  schema : Schema
  /-- The field whose elements become rows. -/
  explode : Option String

namespace Shape

/-- The words for what an exploded field holds. -/
def elementKind : String := "list of objects"

/-- An element of an exploded list, which has to be an object. -/
def element (field : String) : Json → Except QueryError Record
  | .object entries => .ok entries
  | v => .error (.mismatch field elementKind v)

/-- **The elements of an exploded field.** -/
def elements (field : String) : Option Json → Except QueryError (List Record)
  | none => .ok []
  | some .null => .ok []
  | some (.array items) => items.mapM (element field)
  | some v => .error (.mismatch field elementKind v)

/-- What one entry of a record becomes when the record is flattened. -/
def flatEntries (schema : Schema) (entry : String × Json) : List (String × Json) :=
  match entry.2 with
  | .object inner =>
    if (schema.column? entry.1).isNone then inner.map fun e => (entry.1 ++ "." ++ e.1, e.2)
    else [entry]
  | _ => [entry]

/-- **A record flattened by one level.** Objects under declared columns stay whole. -/
def flatten (schema : Schema) (record : Record) : Record :=
  Record.ofList (record.flatMap (flatEntries schema))

/-- **The declared columns of a flat record**, moved to a row one after another. A column that is
declared twice finds nothing left, so its one cell is null. -/
def projectColumns (schema : Schema) : (columns : List String) → (flat row : Record) →
    Except QueryError Record
  | [], _, row => .ok row
  | name :: rest, flat, row => do
    let cell := (Record.get? flat name).getD .null
    match schema.column? name with
    | some c =>
      if c.type.isScalar && cell.isContainer then throw (.mismatch name c.type.name cell)
    | none => pure ()
    projectColumns schema rest (Record.swapRemove flat name) (Record.insert row name cell)

/-- A row from a flat record. -/
def project (s : Shape) (flat : Record) : Except QueryError Record :=
  projectColumns s.schema s.schema.outputColumns flat []

/-- A flat record with the keys of one element. -/
def withElement (field : String) (flat : Record) (item : Record) : Record :=
  Record.insertAll flat (item.map fun e => (field ++ "." ++ e.1, e.2))

/-- **The rows of one record.** -/
def rowsOf (s : Shape) (record : Record) : Except QueryError (List Record) :=
  match s.explode with
  | none => do
    let row ← s.project (flatten s.schema record)
    return [row]
  | some field => do
    let items ← elements field (Record.get? record field)
    -- the exploded field itself is no column of the rows
    let flat := flatten s.schema (Record.swapRemove record field)
    match items with
    | [] => do
      let row ← s.project flat
      return [row]
    | items => items.mapM fun item => s.project (withElement field flat item)

/-- The rows of one payload, which has to be an object. -/
def rowsOfPayload (s : Shape) (index : Nat) : Json → Except QueryError (List Record)
  | .object record => s.rowsOf record
  | v =>
    .error (.schemaMismatch (s.schema.table ++ "[" ++ intText index ++ "]") "object" v.kind)

/-- **The rows of payloads**, the first of them at a position. -/
def unifyFrom (s : Shape) (index : Nat) : List Json → Except QueryError (List Record)
  | [] => .ok []
  | v :: vs => do
    let rows ← s.rowsOfPayload index v
    let more ← s.unifyFrom (index + 1) vs
    return rows ++ more

/-- **The rows of payloads.** -/
def unify (s : Shape) (payloads : List Json) : Except QueryError (List Record) :=
  s.unifyFrom 0 payloads

end Shape

end Pushdown
