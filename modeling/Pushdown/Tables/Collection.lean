import Pushdown.Json.Reader
import Pushdown.Settings
import Pushdown.Store.Store
import Pushdown.Tables.Table

/-!
# The table of a collection

A collection of a vector store holds entities: an identifier, a content, a vector, and any further
fields. To a reader of the table the further fields are one document, `metadata`; in the store they
stand beside the others, where filters can address them. So metadata is **spread** on the way into
the store and **folded** on the way back.

A condition on the search column asks for the neighbours of a vector, whose distance the store
computes. Rows are removed only by a filter on metadata that the store carries out as a whole: a
condition that it cannot carry out would otherwise make the removal wider than what was asked for.
-/

namespace Pushdown.Collection

/-! ### Declarations -/

/-- Rows skipped and rows returned stay below this number together. -/
def windowCeiling : Nat := 16384

/-- The fields of an entity that are columns. -/
def storeFields : List String := ["id", "content", "embeddings", "metadata"]

/-- What asks for all further fields. -/
def furtherFields : String := "*"

/-- The names that no key of metadata can have. -/
def reservedFields : List String := ["id", "content", "embeddings", "metadata", "distance"]

/-- **The columns of a collection.** -/
def schema (name : String) : Schema where
  table := name
  columns :=
    [.output "id" .integer, .output "content" .text, .output "embeddings" .vector,
      .output "metadata" .json, .output "distance" .float, .condition "search_vector" .vector]

/-- How the store filters. -/
def dialect : ExpressionDialect := ⟨"milvus", "metadata", "search_vector"⟩

/-- What the store can do without any adjustment. -/
def capabilities (settings : Settings) : Capabilities where
  filter := true
  sort := false
  limit := true
  offset := true
  windowCeiling := some windowCeiling
  defaultLimit := some settings.defaultLimit

/-- The pipeline of a collection. -/
def pipeline (settings : Settings) (name : String) : Pipeline where
  schema := schema name
  capabilities := settings.capabilitiesFor name (capabilities settings)
  dialect := some (.expression dialect)
  explode := none

/-! ### Reading -/

/-- The part of a path before its first point; all of it if there is none. -/
def headOf (path : String) : String :=
  match Text.splitFirst '.' path.toList with
  | some (head, _) => String.ofList head
  | none => path

/-- The field of an entity that holds a column. -/
def fieldOf (path : String) : Option String :=
  let head := headOf path
  if head = "metadata" then some furtherFields
  else if storeFields.contains head then some head
  else none

/-- **The fields to ask for** so that columns can be read. No field would mean no entity, so then
all are asked for. -/
def outputFields (columns : List String) : List String :=
  let fields := firstOccurrences (columns.filterMap fieldOf)
  if fields.isEmpty then ["id", "content", "embeddings", furtherFields] else fields

/-- **Metadata folded**: what is no column of its own becomes an entry of one document. -/
def foldEntries (out metadata : Record) : Record → Record × Record
  | [] => (out, metadata)
  | (key, value) :: rest =>
    if key = "metadata" ∨ key = "$meta" then
      match value with
      | .object inner => foldEntries out (metadata.insertAll inner) rest
      | .null => foldEntries out metadata rest
      | other => foldEntries (out.insert key other) metadata rest
    else if reservedFields.contains key then foldEntries (out.insert key value) metadata rest
    else foldEntries out (metadata.insert key value) rest

/-- **An entity as a record of the table.** -/
def foldMetadata : Json → Json
  | .object fields =>
    let (out, metadata) := foldEntries [] [] fields
    .object (if metadata.isEmpty then out else out.insert "metadata" (.object metadata))
  | other => other

/-- The reading that a request comes to. -/
def queryOf (name : String) (request : RemoteRequest) : StoreQuery where
  collection := name
  filter := request.filter.bind TargetFilter.expression?
  vector := request.similarity.map (·.vector)
  outputFields := outputFields request.columns
  limit := request.limit
  offset := request.offset

/-- **A collection as a source.** A search without a limit is refused. -/
def source {σ : Type} (store : Store σ) (name : String) : Source σ := fun request _ => do
  if request.similarity.isSome && request.limit.isNone then
    return .error (.protocol "similarity search needs a limit")
  return (← store.query (queryOf name request)).map fun hits => .last (hits.map foldMetadata)

/-- The answer to a spec. -/
def select {σ : Type} (p : Pipeline) (store : Store σ) (name : String) (spec : Spec) :
    Action σ RowSet := do
  -- a query that cannot be planned makes no connection
  let plan ← (p.plan spec : Except QueryError Plan)
  store.withConnection (p.runShaped plan (source store name) .ok)

/-! ### Inserting -/

/-- A value that may be given as its JSON text. -/
def decoded (column expected : String) : Json → Except QueryError Json
  | .string text =>
    match Json.read? text with
    | some v => .ok v
    | none => .error (.mismatch column expected (.string text))
  | v => .ok v

/-- The document in the metadata column, none for null. -/
def metadataOf (value : Json) : Except QueryError (Option Record) := do
  match ← decoded "metadata" "object" value with
  | .object entries => return some entries
  | .null => return none
  | other => throw (.mismatch "metadata" "object" other)

/-- The vector in its column. -/
def embeddingsOf (value : Json) : Except QueryError Json := do
  match ← decoded "embeddings" vectorKind value with
  | .array items => return .array items
  | other => throw (.mismatch "embeddings" vectorKind other)

/-- **Metadata spread** over a record. -/
def spreadMetadata (out : Record) : Record → Except QueryError Record
  | [] => .ok out
  | (key, value) :: rest =>
    if reservedFields.contains key then
      .error (.invalid ("metadata key \x60" ++ key ++ "\x60 clashes with a collection field"))
    else spreadMetadata (out.insert key value) rest

/-- The columns of a row, prepared one after another; metadata is kept apart. -/
def prepareColumns (out : Record) (metadata : Option Record) : Record →
    Except QueryError (Record × Option Record)
  | [] => .ok (out, metadata)
  | (column, value) :: rest =>
    if column = "distance" then
      .error (.invalid "distance is computed by the store and cannot be inserted")
    else if column = "metadata" then do
      let found ← metadataOf value
      prepareColumns out found rest
    else if column = "embeddings" then do
      let vector ← embeddingsOf value
      prepareColumns (out.insert column vector) metadata rest
    else prepareColumns (out.insert column value) metadata rest

/-- **A row as an entity.** -/
def prepareRow (row : Record) : Except QueryError Record := do
  let (out, metadata) ← prepareColumns [] none row
  match metadata with
  | some fields => spreadMetadata out fields
  | none => return out

/-- **Inserts rows**, all of them prepared before there is a connection. -/
def insert {σ : Type} (store : Store σ) (name : String) (rows : List Record) : Action σ Nat := do
  let prepared ← (rows.mapM prepareRow : Except QueryError (List Record))
  store.withConnection (Store.call (store.insert name prepared))

/-! ### Removing -/

/-- **The filter of a removal.** Every condition has to be part of it. -/
def removalFilter (cs : Conditions) : Except QueryError String := do
  if cs.mentions "id" then
    throw (.unsupportedFilter "deletion by id is not supported by this store")
  -- what is left over could only be checked on rows, and none come back from a removal
  let translation ← translate cs (.expression dialect)
  if !translation.residual.isEmpty || translation.similarity.isSome then
    throw (.unsupportedFilter ("DELETE accepts only metadata filters in " ++ dialect.target))
  match translation.pushed.bind TargetFilter.expression? with
  | some filter => return filter
  | none => throw (.invalid "metadata filters are required for DELETE")

/-- **Removes the entities that meet conditions.** -/
def delete {σ : Type} (store : Store σ) (name : String) (cs : Conditions) : Action σ Nat := do
  let filter ← (removalFilter cs : Except QueryError String)
  store.withConnection (Store.call (store.delete name filter))

/-! ### The table -/

/-- **The table of a collection.** -/
def table {σ : Type} (settings : Settings) (store : Store σ) (name : String) : Table σ :=
  let p := pipeline settings name
  { schema := p.schema
    capabilities := p.capabilities
    select := select p store name
    insert := insert store name
    update := fun _ _ => throw (Table.refuseUpdate name)
    delete := delete store name }

end Pushdown.Collection
