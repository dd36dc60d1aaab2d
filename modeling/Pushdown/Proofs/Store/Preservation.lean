import Mathlib.Order.Defs.Unbundled
import Pushdown.Remote.Pipeline

/-!
# What work preserves

Work on a state `Keeps` a relation if it leads from every state to one in the relation. Where the
relation is reflexive and transitive, this goes through all ways to put work together: nothing is to
be known but that the pieces keep it. The answer to a plan is put together from requests for pages,
so it keeps whatever the requests keep (`keeps_runShaped`). Pages are collected one after another;
that is by induction on the allowance of a collection (`keeps_fetchFrom`).
-/

namespace Pushdown

variable {σ α β : Type} {R : σ → σ → Prop}

/-- **Work that keeps a relation**, whatever the state. -/
def Keeps (R : σ → σ → Prop) (work : StateM σ α) : Prop := ∀ x, R x (work.run x).2

variable [IsPreorder σ R]

theorem keeps_pure (a : α) : Keeps R (pure a) := fun x => refl_of R x

theorem keeps_bind {work : StateM σ α} {f : α → StateM σ β} (hwork : Keeps R work)
    (hf : ∀ a, Keeps R (f a)) : Keeps R (work >>= f) := by
  intro x
  -- the state in between is the one that the second part begins in
  rw [StateT.run_bind]
  exact trans_of R (hwork x) (hf _ _)

/-- Work that can fail goes on only if it does not. -/
theorem keeps_action_bind {work : Action σ α} {f : α → Action σ β} (hwork : Keeps R work.run)
    (hf : ∀ a, Keeps R (f a).run) : Keeps R (work >>= f).run := by
  -- a failure is handed on, and that keeps the state
  rw [ExceptT.run_bind]
  refine keeps_bind hwork fun outcome => ?_
  cases outcome with
  | ok a => exact hf a
  | error e => exact keeps_pure _

theorem keeps_lift (step : Except QueryError α) : Keeps R (liftM step : Action σ α).run := by
  cases step with
  | ok a => exact keeps_pure _
  | error e => exact keeps_pure _

section

variable {source : Source σ} {request : RemoteRequest}
  (hsource : ∀ token, Keeps R (source request token))
include hsource

/-- **A collection of pages** keeps what the requests for the pages keep. -/
theorem keeps_fetchFrom (allowance : Nat) (p : Progress) :
    Keeps R (fetchFrom source request allowance p) := by
  -- on the allowance, for any progress: every page but the last leads to a further one
  induction allowance generalizing p with
  | zero => exact keeps_pure none
  | succ allowance ih =>
    rw [fetchFrom]
    refine keeps_bind (hsource p.token) fun answer => ?_
    cases p.step request.maxRecords answer with
    | done outcome => exact keeps_pure (some outcome)
    | more next => exact ih next

theorem keeps_fetchAll : Keeps R (fetchAll source request).run := by
  refine keeps_bind (keeps_fetchFrom hsource pageAllowance .start) fun outcome => ?_
  cases outcome with
  | none => exact keeps_pure _
  | some outcome => exact keeps_pure outcome

end

/-- **An answer to a plan**: what comes after the collection does not act. -/
theorem keeps_runShaped {source : Source σ} {plan : Plan}
    (hsource : ∀ token, Keeps R (source plan.remote token)) (p : Pipeline)
    (shape : Json → Except QueryError Json) : Keeps R (p.runShaped plan source shape).run := by
  refine keeps_action_bind (keeps_fetchAll hsource) fun records => ?_
  exact keeps_action_bind (keeps_lift _) fun payloads => keeps_lift _

end Pushdown
