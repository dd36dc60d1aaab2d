import Pushdown.Schema
import Pushdown.Spec
import Pushdown.Translation

/-!
# Plans

A plan divides the work of a spec. The remote side filters, sorts and cuts as far as it can; what is
left (conditions, order, window, projection) is done locally on the rows that come back. Every
reference to a column is resolved before there is a plan, so that no request is made for a query
that cannot be finished.

The window (how many rows to skip, how many to return) can be left to the remote side only if
nothing that comes before it is left to do: no condition and no sort. If the remote side cannot
skip, it is asked for the whole window and the skipping is done locally. A remote side that would
otherwise be asked for everything can have a default limit, which is kept below its ceiling.

Counts are natural numbers below two to the sixty-fourth; a sum that would reach beyond stays at the
greatest of them.
-/

namespace Pushdown

/-! ### What a remote side can do -/

/-- **Capabilities of a remote side.** -/
structure Capabilities where
  /-- It filters. -/
  filter : Bool
  /-- It sorts. -/
  sort : Bool
  /-- It returns at most a given number of rows. -/
  limit : Bool
  /-- It skips a given number of rows. -/
  offset : Bool
  /-- Rows skipped and rows returned have to stay below this number together. -/
  windowCeiling : Option Nat
  /-- The limit of a request that would otherwise have none. -/
  defaultLimit : Option Nat
  deriving DecidableEq, Repr

namespace Capabilities

/-- A remote side that only delivers. -/
def nothing : Capabilities := ⟨false, false, false, false, none, none⟩

/-- A remote side that filters. -/
def filtering : Capabilities := { nothing with filter := true }

end Capabilities

/-- The greatest count. -/
def greatestCount : Nat := 18446744073709551615

/-- The sum of two counts, at most the greatest count. -/
def cappedSum (a b : Nat) : Nat := min (a + b) greatestCount

/-! ### Requests and plans -/

/-- **What a remote side is asked for.** -/
structure RemoteRequest where
  /-- The table. -/
  table : String
  /-- The columns that the local part of the plan reads. -/
  columns : List String
  /-- The filter. -/
  filter : Option TargetFilter
  /-- The search for neighbours. -/
  similarity : Option Similarity
  /-- The keys of the order. -/
  sort : List OrderKey
  /-- How many rows to return. -/
  limit : Option Nat
  /-- How many rows to skip. -/
  offset : Option Nat
  /-- No more records than this are needed. -/
  maxRecords : Option Nat

/-- A request for all rows of a table. -/
def RemoteRequest.forTable (table : String) : RemoteRequest :=
  ⟨table, [], none, none, [], none, none, none⟩

/-- **A plan**: the request, and what is done with the rows that come back. -/
structure Plan where
  /-- What the remote side is asked for. -/
  remote : RemoteRequest
  /-- The conditions to check. -/
  residual : Conditions
  /-- The keys of the order. -/
  localSort : List OrderKey
  /-- How many rows to skip. -/
  localOffset : Option Nat
  /-- How many rows to return. -/
  localLimit : Option Nat
  /-- The columns to return. -/
  output : List ProjectedColumn

/-- The names of the columns that a plan returns. -/
def Plan.outputNames (p : Plan) : List String := p.output.map (·.outputName)

/-! ### Checks -/

/-- A reference to a column that rows have to carry. -/
def requireOutput (schema : Schema) (path : String) (place : ColumnUse) :
    Except QueryError Unit := do
  let _ ← schema.require path place
  if schema.isFilterOnly path then throw (.unknownColumn path place)

/-- **The columns of a projection**, all of them resolved. -/
def resolveProjection (schema : Schema) : Projection → Except QueryError (List ProjectedColumn)
  | .all => .ok (schema.outputColumns.map .plain)
  | .columns cs => do
    cs.forM fun c => requireOutput schema c.path .projection
    return cs

/-- **The window has to stay below the ceiling**, if there is a ceiling and a window. -/
def checkWindow (spec : Spec) (capabilities : Capabilities) : Except QueryError Unit :=
  match capabilities.windowCeiling with
  | none => .ok ()
  | some ceiling =>
    if spec.limit.isNone && spec.offset.isNone then .ok ()
    else
      let limit := spec.limit.getD 0
      let offset := spec.offset.getD 0
      if cappedSum limit offset < ceiling then .ok ()
      else .error (.windowOutOfRange limit offset ceiling)

/-- The conditions of a spec divided, if the remote side filters. -/
def divideConditions (cs : Conditions) (capabilities : Capabilities) (dialect : Option Dialect) :
    Except QueryError Translation :=
  match dialect with
  | some d => if capabilities.filter then translate cs d else .ok ⟨none, cs, none⟩
  | none => .ok ⟨none, cs, none⟩

/-- No condition left over is on a column that rows do not carry. -/
def checkResidual (schema : Schema) (residual : Conditions) : Except QueryError Unit :=
  match residual.find? fun c => schema.isFilterOnly c.column with
  | some c =>
    .error (.unsupportedFilter ("'" ++ c.column ++
      "' can only be filtered by the remote source, not with " ++ c.op.sign))
  | none => .ok ()

/-! ### The window -/

/-- **The window divided**: what the remote side is asked for and what is left. -/
structure WindowSplit where
  /-- How many rows the remote side returns. -/
  remoteLimit : Option Nat
  /-- How many rows the remote side skips. -/
  remoteOffset : Option Nat
  /-- How many rows to return locally. -/
  localLimit : Option Nat
  /-- How many rows to skip locally. -/
  localOffset : Option Nat
  deriving DecidableEq, Repr

/-- **How a window is divided.** `pushable` says that nothing before the window is left to do. -/
def splitWindow (spec : Spec) (capabilities : Capabilities) (pushable : Bool) : WindowSplit :=
  if pushable && capabilities.limit then
    match spec.offset with
    | none => ⟨spec.limit, none, none, none⟩
    | some offset =>
      if capabilities.offset then ⟨spec.limit, some offset, none, none⟩
      else ⟨spec.limit.map (cappedSum · offset), none, spec.limit, some offset⟩
  else ⟨none, none, spec.limit, spec.offset⟩

/-- **How many records are needed at most**, as far as the window tells. -/
def neededRecords (spec : Spec) (pushable : Bool) (split : WindowSplit) : Option Nat :=
  match split.remoteLimit with
  | some limit => some limit
  | none => if pushable then spec.limit.map (cappedSum · (spec.offset.getD 0)) else none

/-- The default limit of a remote side, kept below its ceiling. -/
def Capabilities.cappedDefault (c : Capabilities) : Option Nat :=
  c.defaultLimit.map fun limit =>
    match c.windowCeiling with
    | some ceiling => min limit (ceiling - 1)
    | none => limit

/-- **The limit of the request and the number of records needed**, after the default limit. -/
def withDefaultLimit (capabilities : Capabilities) (remoteLimit needed : Option Nat) :
    Option Nat × Option Nat :=
  match needed, capabilities.cappedDefault with
  | none, some limit => (if capabilities.limit then some limit else remoteLimit, some limit)
  | _, _ => (remoteLimit, needed)

/-! ### Planning -/

/-- A list without repetitions: each item where it first stands. -/
def firstOccurrences (items : List String) : List String :=
  items.foldl (fun found item => if found.contains item then found else found ++ [item]) []

/-- **The columns that the local part of a plan reads.** -/
def neededColumns (output : List ProjectedColumn) (residual : Conditions) (sort : List OrderKey) :
    List String :=
  firstOccurrences (output.map (·.path) ++ residual.map (·.column) ++ sort.map (·.column))

/-- **The remote side can sort by the keys**: it sorts, and the keys are declared columns. -/
def sortPushable (schema : Schema) (capabilities : Capabilities) (keys : List OrderKey) : Bool :=
  capabilities.sort && !keys.isEmpty && keys.all fun k => (schema.column? k.column).isSome

/-- **The plan for a spec.** -/
def plan (spec : Spec) (schema : Schema) (capabilities : Capabilities) (dialect : Option Dialect) :
    Except QueryError Plan := do
  -- every reference is resolved first: of two faults the one in the projection is reported
  let output ← resolveProjection schema spec.projection
  spec.conditions.forM fun c => discard (schema.require c.column .filter)
  spec.orderBy.forM fun k => requireOutput schema k.column .order
  checkWindow spec capabilities
  let translation ← divideConditions spec.conditions capabilities dialect
  checkResidual schema translation.residual
  -- from here on nothing fails; the window can go only where all that precedes it goes too
  let sorted := sortPushable schema capabilities spec.orderBy
  let pushable := translation.residual.isEmpty && (spec.orderBy.isEmpty || sorted)
  let split := splitWindow spec capabilities pushable
  let (remoteLimit, maxRecords) :=
    withDefaultLimit capabilities split.remoteLimit (neededRecords spec pushable split)
  let localSort := if sorted then [] else spec.orderBy
  return {
    remote := {
      table := schema.table
      columns := neededColumns output translation.residual localSort
      filter := translation.pushed
      similarity := translation.similarity
      sort := if sorted then spec.orderBy else []
      limit := remoteLimit
      offset := split.remoteOffset
      maxRecords := maxRecords }
    residual := translation.residual
    localSort := localSort
    localOffset := split.localOffset
    localLimit := split.localLimit
    output := output }

end Pushdown
