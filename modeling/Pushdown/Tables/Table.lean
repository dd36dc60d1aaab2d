import Pushdown.Remote.Pipeline

/-!
# Tables

A table declares its columns and capabilities and carries out four kinds of work: it answers a spec,
and it inserts, changes and removes rows. Most tables are read only and refuse the other three. What
a table does may act on a state, that of the stores and networks behind it.
-/

namespace Pushdown

/-- **A table.** -/
structure Table (σ : Type) where
  /-- The columns. -/
  schema : Schema
  /-- What the remote side can do. -/
  capabilities : Capabilities
  /-- The answer to a spec. -/
  select : Spec → Action σ RowSet
  /-- Inserts records, and says how many. -/
  insert : List Record → Action σ Nat
  /-- Changes the rows that meet conditions, and says how many. -/
  update : Record → Conditions → Action σ Nat
  /-- Removes the rows that meet conditions, and says how many. -/
  delete : Conditions → Action σ Nat

namespace Table

variable {σ : Type}

/-- The name of a table. -/
def name (t : Table σ) : String := t.schema.table

/-- The refusal of an insertion. -/
def refuseInsert (name : String) : QueryError :=
  .unsupportedStatement ("INSERT into '" ++ name ++ "'")

/-- The refusal of a change. -/
def refuseUpdate (name : String) : QueryError :=
  .unsupportedStatement ("UPDATE of '" ++ name ++ "'")

/-- The refusal of a removal. -/
def refuseDelete (name : String) : QueryError :=
  .unsupportedStatement ("DELETE from '" ++ name ++ "'")

/-- **A table that only answers.** -/
def readOnly (schema : Schema) (capabilities : Capabilities) (select : Spec → Action σ RowSet) :
    Table σ where
  schema := schema
  capabilities := capabilities
  select := select
  insert _ := throw (refuseInsert schema.table)
  update _ _ := throw (refuseUpdate schema.table)
  delete _ := throw (refuseDelete schema.table)

/-- **The table of a pipeline and a source.** -/
def ofPipeline (p : Pipeline) (source : Source σ) : Table σ :=
  readOnly p.schema p.capabilities (p.run source)

end Table

end Pushdown
