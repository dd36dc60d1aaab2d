import Pushdown.Remote.Fetch
import Pushdown.Rows.Completion
import Pushdown.Rows.Unification

/-!
# From a spec to an answer

A pipeline is what a table over a remote side declares: its columns, what the remote side can do,
how it filters, and the field that is exploded. An answer is planned, fetched, unified and completed
in this order.

If a field is exploded, one record can become several rows, so the rows that a window counts are not
the records that a remote side counts. Such a pipeline keeps the window for itself.
-/

namespace Pushdown

/-- **What a table over a remote side declares.** -/
structure Pipeline where
  /-- The columns. -/
  schema : Schema
  /-- What the remote side can do. -/
  capabilities : Capabilities
  /-- How the remote side filters. -/
  dialect : Option Dialect
  /-- The field whose elements become rows. -/
  explode : Option String

namespace Pipeline

/-- The capabilities that a plan can use. -/
def planCapabilities (p : Pipeline) : Capabilities :=
  if p.explode.isSome then { p.capabilities with limit := false, offset := false }
  else p.capabilities

/-- **The plan for a spec.** -/
def plan (p : Pipeline) (spec : Spec) : Except QueryError Plan :=
  Pushdown.plan spec p.schema p.planCapabilities p.dialect

/-- How payloads become rows. -/
def shape (p : Pipeline) : Shape := ⟨p.schema, p.explode⟩

/-- **The answer to a plan**, from the payloads that came back. -/
def finish (p : Pipeline) (plan : Plan) (payloads : List Json) : Except QueryError RowSet := do
  plan.complete p.schema (← p.shape.unify payloads)

/-- The answer to a plan, from a source whose records are brought into shape one by one. -/
def runShaped {σ : Type} (p : Pipeline) (plan : Plan) (source : Source σ)
    (shapeRecord : Json → Except QueryError Json) : Action σ RowSet := do
  let records ← fetchAll source plan.remote
  let payloads ← (records.mapM shapeRecord : Except QueryError (List Json))
  (p.finish plan payloads : Except QueryError RowSet)

/-- **The answer to a spec**, from a source. -/
def run {σ : Type} (p : Pipeline) (source : Source σ) (spec : Spec) : Action σ RowSet := do
  let plan ← (p.plan spec : Except QueryError Plan)
  p.runShaped plan source .ok

end Pipeline

end Pushdown
