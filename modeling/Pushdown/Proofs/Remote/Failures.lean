import Pushdown.Proofs.Outcome
import Pushdown.Proofs.Registry.Handover
import Pushdown.Proofs.Rows.Unification
import Pushdown.Remote.Pipeline

/-!
# Who is to blame for a failure

Work on the payloads of a remote side fails in one of two ways. A request of the collection can go
wrong, and then the failure names its cause: an answer of the source, or one of the two rules of the
conversation that the collection itself sees to (`Blames`). Or the payloads cannot be finished, and
then the failure is local (`QueryError.IsLocal`): it names a column, a type or a pattern, but not
a request. `blames_of_runShaped` says that there is no third way.

So a message that neither the collection nor the local part gives comes from the source.
-/

namespace Pushdown

variable {σ : Type}

/-! ### Local failures -/

/-- **A failure that no request is to blame for.** -/
def QueryError.IsLocal : QueryError → Prop
  | .remoteFetch _ _ _ => False
  | _ => True

theorem CompiledCondition.compile_local (schema : Schema) (c : Condition) :
    FailsOnly QueryError.IsLocal (compile schema c) := by
  unfold compile
  -- three steps can fail: the column, its values and the pattern are looked at
  refine FailsOnly.bind ?_ fun type => FailsOnly.bind (failsOnly_forM (fun v => ?_) _) fun _ =>
    FailsOnly.bind ?_ fun pattern => failsOnly_pure
  · unfold Schema.require
    split
    · exact failsOnly_ok
    · exact failsOnly_error trivial
  · unfold checkLiteral
    split
    · exact failsOnly_ok
    · exact failsOnly_error trivial
  · -- a pattern is looked at in the two operators that have one
    have haccepted (text : String) : FailsOnly QueryError.IsLocal (acceptedPattern text) := by
      unfold acceptedPattern
      split
      · exact failsOnly_ok
      · exact failsOnly_error trivial
    unfold patternOf
    split
    · exact (haccepted _).map _
    · exact (haccepted _).map _
    · exact failsOnly_error trivial
    · exact failsOnly_error trivial
    · exact failsOnly_ok

theorem Plan.complete_local (p : Plan) (schema : Schema) (rows : List Record) :
    FailsOnly QueryError.IsLocal (p.complete schema rows) :=
  (failsOnly_mapM (CompiledCondition.compile_local schema) p.residual).bind fun _ => failsOnly_pure

theorem QueryError.IsMismatch.isLocal {e : QueryError} (h : e.IsMismatch) : e.IsLocal := by
  obtain ⟨field, expected, found, rfl⟩ := h
  trivial

/-- **Payloads that cannot be finished fail locally.** -/
theorem Pipeline.finish_local (p : Pipeline) (plan : Plan) (payloads : List Json) :
    FailsOnly QueryError.IsLocal (p.finish plan payloads) :=
  FailsOnly.bind (fun e he => (p.shape.unifyFrom_mismatch 0 payloads e he).isLocal) fun rows =>
    plan.complete_local p.schema rows

/-! ### Failures of a collection -/

/-- **A source answers a request with a cause** of failure, for some page and in some state. -/
def Source.Answers (source : Source σ) (request : RemoteRequest) (cause : FetchError) : Prop :=
  ∃ token s, ((source request token).run s).1 = .error cause

/-- **A request is to blame.** -/
inductive Blames (source : Source σ) (request : RemoteRequest) : QueryError → Prop where
  /-- The source answered with the cause. -/
  | answer {page held : Nat} {cause : FetchError} (h : source.Answers request cause) :
    Blames source request (.remoteFetch page held cause)
  /-- A token came back a second time. -/
  | circle {page held : Nat} {token : String} : Blames source request
    (.remoteFetch page held (.protocol ("continuation token '" ++ token ++ "' returned twice")))
  /-- There are more pages than can be counted. -/
  | endless {page held : Nat} :
    Blames source request (.remoteFetch page held (.protocol "the pages have no end"))

variable {source : Source σ} {request : RemoteRequest} {s : σ} {e : QueryError}

theorem Progress.blames_of_step {p : Progress}
    (h : p.step request.maxRecords ((source request p.token).run s).1 = .done (.error e)) :
    Blames source request e := by
  -- an answer that is a failure is its cause, and a page fails only with a token that was used
  cases hanswer : ((source request p.token).run s).1 with
  | error cause =>
    rw [hanswer] at h
    obtain rfl := Except.error.inj (Step.done.inj h)
    exact .answer ⟨_, s, hanswer⟩
  | ok page =>
    rw [hanswer] at h
    unfold step advance at h
    dsimp only at h
    split at h
    case isTrue => exact absurd h nofun
    case isFalse =>
      split at h
      case h_1 => exact absurd h nofun
      case h_2 =>
        split at h
        case isTrue =>
          obtain rfl := Except.error.inj (Step.done.inj h)
          exact .circle
        case isFalse => exact absurd h nofun

theorem blames_of_fetchFrom {allowance : Nat} {p : Progress}
    (h : ((fetchFrom source request allowance p).run s).1 = some (.error e)) :
    Blames source request e := by
  -- on the allowance: the page that fails is the first, or one that a further page leads to
  induction allowance generalizing p s with
  | zero => exact absurd h nofun
  | succ allowance ih =>
    rw [fetchFrom, StateT.run_bind] at h
    dsimp only [bind] at h
    cases hstep : p.step request.maxRecords ((source request p.token).run s).1 with
    | done outcome =>
      rw [hstep] at h
      obtain rfl : outcome = .error e := Option.some.inj h
      exact Progress.blames_of_step hstep
    | more next =>
      rw [hstep] at h
      exact ih h

theorem blames_of_fetchAll (h : ((fetchAll source request).run.run s).1 = .error e) :
    Blames source request e := by
  unfold fetchAll at h
  rw [ExceptT.run_mk, StateT.run_bind] at h
  dsimp only [bind] at h
  -- within the allowance some page failed, and otherwise the pages have no end
  cases hfetch : ((fetchWithin source request pageAllowance).run s).1 with
  | none =>
    rw [hfetch] at h
    obtain rfl := Except.error.inj h
    exact .endless
  | some outcome =>
    rw [hfetch] at h
    obtain rfl : outcome = .error e := h
    exact blames_of_fetchFrom hfetch

/-- **A request is to blame for a failure, or the failure is local.** -/
theorem blames_of_runShaped {p : Pipeline} {plan : Plan}
    (h : ((p.runShaped plan source .ok).run.run s).1 = .error e) :
    Blames source plan.remote e ∨ e.IsLocal := by
  unfold Pipeline.runShaped at h
  rw [bind_run] at h
  cases hfetch : ((fetchAll source plan.remote).run.run s).1 with
  | error e' =>
    rw [hfetch] at h
    obtain rfl : e' = e := Except.error.inj h
    exact .inl (blames_of_fetchAll hfetch)
  | ok records =>
    rw [hfetch] at h
    dsimp only at h
    -- records are not reshaped here, so only finishing is left
    rw [mapM_ok, lift_bind_run] at h
    dsimp only at h
    refine .inr (p.finish_local plan records e ?_)
    cases hfinish : p.finish plan records with
    | ok answer =>
      rw [hfinish] at h
      exact absurd h nofun
    | error e' =>
      rw [hfinish] at h
      exact congrArg Except.error (Except.error.inj h)

end Pushdown
