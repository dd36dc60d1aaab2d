import Pushdown.Json.Writer
import Pushdown.Schema
import Pushdown.Spec
import Pushdown.Text.Blank
import Pushdown.Time.Instant

/-!
# Comparing cells and rows

The declared type of a column decides how its cells compare. A number may have come as its text, a
truth value too; moments compare as moments when both texts write one; documents compare by what
they happen to be. Cells that the type cannot compare, and nulls, are **incomparable**, which is
neither less nor equal nor greater: no condition holds of them.

An order of rows needs an answer for every pair. There nulls come last in either direction, and
cells that the type cannot compare are ordered by their kind and then by their text.
-/

namespace Pushdown

open Number

/-! ### Cells of a row -/

/-- The cell at the steps of a path. A key that is the whole rest of the path wins over going down
into the object under the first step. -/
def lookupSteps : (steps : List String) → Record → Option Json
  | [], _ => none
  | [key], row => Record.get? row key
  | head :: next :: rest, row =>
    match Record.get? row (".".intercalate (head :: next :: rest)) with
    | some v => some v
    | none =>
      match Record.get? row head with
      | some (.object inner) => lookupSteps (next :: rest) inner
      | _ => none

/-- The steps of a dotted path. -/
def pathSteps (path : String) : List String := (Text.splitOn '.' path.toList).map String.ofList

/-- **The cell at a dotted path.** -/
def lookup (row : Record) (path : String) : Option Json := lookupSteps (pathSteps path) row

/-! ### Coercions -/

/-- A cell as a number: a number, or a text that writes one. -/
def asNumber? : Json → Option Double
  | .number n => some n.toDouble
  | .string s => Double.read? (Text.trim s.toList)
  | _ => none

/-- A cell as a truth value: one, or its name in any case of letters. -/
def asBool? : Json → Option Bool
  | .bool b => some b
  | .string s =>
    if s.toLower = "true" then some true else if s.toLower = "false" then some false else none
  | _ => none

/-! ### Comparison of cells -/

/-- Texts compare character by character. -/
def compareTexts (a b : String) : Ordering := compare a b

/-- A false value is less than a true one. -/
def compareBools (a b : Bool) : Ordering := compare a.toNat b.toNat

/-- Cells as numbers. -/
def compareNumbers? (a b : Json) : Option Ordering :=
  match asNumber? a, asNumber? b with
  | some x, some y => x.compare? y
  | _, _ => none

/-- Texts as moments if both write one, as texts otherwise. -/
def compareMoments (a b : String) : Ordering :=
  match Time.Instant.read? a.toList, Time.Instant.read? b.toList with
  | some x, some y => x.compare y
  | _, _ => compareTexts a b

/-- **Documents by what they are.** A number compares with a text as a number; other kinds compare
only if they are equal. -/
def compareDocuments? : (a b : Json) → Option Ordering
  | .number x, .number y => compareNumbers? (.number x) (.number y)
  | .number x, .string y => compareNumbers? (.number x) (.string y)
  | .string x, .number y => compareNumbers? (.string x) (.number y)
  | .string x, .string y => some (compareTexts x y)
  | .bool x, .bool y => some (compareBools x y)
  | a, b => if a.same b then some .eq else none

/-- Two cells, neither of them null, under a type. -/
def compareValues? (type : ColumnType) (a b : Json) : Option Ordering :=
  match type with
  | .integer => compareNumbers? a b
  | .float => compareNumbers? a b
  | .boolean =>
    match asBool? a, asBool? b with
    | some x, some y => some (compareBools x y)
    | _, _ => none
  | .timestamp => some (compareMoments a.bareText b.bareText)
  | .text => some (compareTexts a.bareText b.bareText)
  | .json => compareDocuments? a b
  | .vector => compareDocuments? a b

/-- **Two cells under the type of their column.** A null is comparable with nothing. -/
def compareCells? (type : ColumnType) (a b : Json) : Option Ordering :=
  if a.isNull || b.isNull then none else compareValues? type a b

/-! ### Order of rows -/

/-- The rank of a kind among values that a type cannot compare. -/
def kindRank : Json → Nat
  | .bool _ => 0
  | .number _ => 1
  | .string _ => 2
  | .array _ => 3
  | .object _ => 4
  | .null => 5

/-- Incomparable cells: by kind, then by text. -/
def compareByKind (a b : Json) : Ordering :=
  (compare (kindRank a) (kindRank b)).then (compareTexts a.bareText b.bareText)

/-- The order in a direction. -/
def Direction.apply (d : Direction) (o : Ordering) : Ordering :=
  match d with
  | .ascending => o
  | .descending => o.swap

/-- **Two cells in an order**: nulls last, whatever the direction. -/
def orderCells (type : ColumnType) (d : Direction) (a b : Json) : Ordering :=
  match a.isNull, b.isNull with
  | true, true => .eq
  | true, false => .gt
  | false, true => .lt
  | false, false => d.apply ((compareCells? type a b).getD (compareByKind a b))

/-- A key of an order with the type of its column. -/
structure TypedKey where
  /-- The path of the column. -/
  column : String
  /-- The direction. -/
  direction : Direction
  /-- The type of the column. -/
  type : ColumnType
  deriving DecidableEq, Repr

/-- The cell that a key looks at; a missing one is null. -/
def TypedKey.cell (k : TypedKey) (row : Record) : Json := (lookup row k.column).getD .null

/-- **Two rows in an order**: by the first key that tells them apart. -/
def compareRows : (keys : List TypedKey) → (a b : Record) → Ordering
  | [], _, _ => .eq
  | k :: ks, a, b => (orderCells k.type k.direction (k.cell a) (k.cell b)).then (compareRows ks a b)

/-- The keys of an order with their types; a column that is not declared holds documents. -/
def typedKeys (schema : Schema) (keys : List OrderKey) : List TypedKey :=
  keys.map fun k => ⟨k.column, k.direction, (schema.resolve k.column).getD .json⟩

/-! ### Sorting -/

/-- Puts a row into the reverse of a sorted list: before the first row that it is not less than. -/
def insertLast (less : Record → Record → Bool) (row : Record) : List Record → List Record
  | [] => [row]
  | last :: before =>
    if less row last then last :: insertLast less row before else row :: last :: before

/-- **Rows in order.** Each row in turn is put behind the rows before it, as far back as it is not
less than the row in front of it, so rows that compare equal keep their order. -/
def sortRows (less : Record → Record → Bool) (rows : List Record) : List Record :=
  (rows.foldl (fun sorted row => insertLast less row sorted) []).reverse

/-- Rows in the order of keys. -/
def sortBy (keys : List TypedKey) (rows : List Record) : List Record :=
  sortRows (fun a b => compareRows keys a b == .lt) rows

end Pushdown
