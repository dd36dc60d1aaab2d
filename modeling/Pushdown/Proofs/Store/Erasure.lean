import Pushdown.Proofs.Registry.Handover
import Pushdown.Proofs.Store.Recording
import Pushdown.Remote.Pipeline

/-!
# A record has no influence

Work over a store that writes down its calls comes to what it comes to without the record: the
outcome is the same, and so is the state beside the record. That `Erases` holds of all work that is
put together from calls to the store, because nothing but `Store.recording` has access to the
record. Here it is shown for each way of putting work together, `erases_bind` first of all; a
collection of pages goes by the allowance, `erases_fetchFrom`.

Tables whose work erases to that of others, under the same columns, can stand for them in a
registry: every text comes to the same (`Registry.ErasesTo.execute`), since what a table is handed
depends on its columns alone.
-/

namespace Pushdown

variable {σ α β : Type}

/-- **Work that differs from other work by a record alone.** -/
def Erases (recorded : StateM (σ × List Call) α) (plain : StateM σ α) : Prop :=
  ∀ x, ((recorded.run x).1, (recorded.run x).2.1) = plain.run x.1

/-! ### Ways to put work together -/

theorem erases_pure (a : α) : Erases (pure a : StateM (σ × List Call) α) (pure a) := fun _ => rfl

theorem erases_recorded (call : Call) (work : StateM σ α) : Erases (recorded call work) work :=
  fun _ => rfl

theorem erases_bind {work' : StateM (σ × List Call) α} {work : StateM σ α}
    {f' : α → StateM (σ × List Call) β} {f : α → StateM σ β} (hwork : Erases work' work)
    (hf : ∀ a, Erases (f' a) (f a)) : Erases (work' >>= f') (work >>= f) := by
  intro x
  -- the second part goes on from the same result and the same state
  rw [StateT.run_bind, StateT.run_bind, ← hwork x]
  exact hf _ _

/-- Work that can fail goes on only if it does not. -/
theorem erases_action_bind {work' : Action (σ × List Call) α} {work : Action σ α}
    {f' : α → Action (σ × List Call) β} {f : α → Action σ β} (hwork : Erases work'.run work.run)
    (hf : ∀ a, Erases (f' a).run (f a).run) : Erases (work' >>= f').run (work >>= f).run := by
  rw [ExceptT.run_bind, ExceptT.run_bind]
  refine erases_bind hwork fun outcome => ?_
  cases outcome with
  | ok a => exact hf a
  | error e => exact erases_pure _

theorem erases_lift (x : Except QueryError α) :
    Erases (liftM x : Action (σ × List Call) α).run (liftM x : Action σ α).run := by
  -- a step that does not act leaves the state alone, with a record or without
  intro s
  cases x <;> rfl

variable {store : Store σ}

theorem erases_withConnection {work' : Action (σ × List Call) α} {work : Action σ α}
    (hwork : Erases work'.run work.run) :
    Erases (store.recording.withConnection work').run (store.withConnection work).run := by
  refine erases_action_bind (erases_recorded .connect store.connect.run) fun _ => ?_
  refine erases_bind hwork fun outcome => ?_
  exact erases_bind (erases_recorded .disconnect store.disconnect) fun _ => erases_pure outcome

theorem erases_call {work' : StateM (σ × List Call) (Except FetchError α)}
    {work : StateM σ (Except FetchError α)} (hwork : Erases work' work) :
    Erases (Store.call work').run (Store.call work).run := by
  refine erases_bind hwork fun answer => ?_
  cases answer with
  | ok a => exact erases_pure _
  | error e => exact erases_pure _

section

variable {source' : Source (σ × List Call)} {source : Source σ} {request : RemoteRequest}
  (hsource : ∀ request token, Erases (source' request token) (source request token))
include hsource

/-- **A collection of pages** goes from page to page as it does without a record. -/
theorem erases_fetchFrom (allowance : Nat) (p : Progress) :
    Erases (fetchFrom source' request allowance p) (fetchFrom source request allowance p) := by
  induction allowance generalizing p with
  | zero => exact erases_pure none
  | succ allowance ih =>
    rw [fetchFrom, fetchFrom]
    -- the answer is the same, so the step is the same
    refine erases_bind (hsource request p.token) fun answer => ?_
    cases p.step request.maxRecords answer with
    | done outcome => exact erases_pure (some outcome)
    | more next => exact ih next

theorem erases_fetchAll :
    Erases (fetchAll source' request).run (fetchAll source request).run := by
  refine erases_bind (erases_fetchFrom hsource pageAllowance .start) fun outcome => ?_
  cases outcome with
  | none => exact erases_pure _
  | some outcome => exact erases_pure outcome

theorem erases_runShaped (p : Pipeline) (plan : Plan) (shape : Json → Except QueryError Json) :
    Erases (p.runShaped plan source' shape).run (p.runShaped plan source shape).run := by
  -- only the collection acts
  refine erases_action_bind (erases_fetchAll hsource) fun records => ?_
  exact erases_action_bind (erases_lift _) fun payloads => erases_lift _

end

/-! ### Tables and registries -/

/-- **A table whose work differs from that of another by a record alone.** -/
structure Table.ErasesTo (t' : Table (σ × List Call)) (t : Table σ) : Prop where
  schema : t'.schema = t.schema
  select : ∀ spec, Erases (t'.select spec).run (t.select spec).run
  insert : ∀ records, Erases (t'.insert records).run (t.insert records).run
  update : ∀ assignments conditions,
    Erases (t'.update assignments conditions).run (t.update assignments conditions).run
  delete : ∀ conditions, Erases (t'.delete conditions).run (t.delete conditions).run

/-- Registries of such tables, under the same names. -/
def Registry.ErasesTo (r' : Registry (σ × List Call)) (r : Registry σ) : Prop :=
  List.Forall₂ (fun e' e => e'.1 = e.1 ∧ e'.2.ErasesTo e.2) r' r

theorem Table.ErasesTo.execute {t' : Table (σ × List Call)} {t : Table σ} (h : t'.ErasesTo t)
    (statement : Statement) : Erases (t'.execute statement).run (t.execute statement).run := by
  -- the columns are the same, so the same is handed over
  rw [execute_eq, execute_eq, h.schema]
  refine erases_action_bind (erases_lift _) fun handed => ?_
  cases handed with
  | select spec => exact erases_action_bind (h.select spec) fun _ => erases_pure _
  | insert records => exact erases_action_bind (h.insert records) fun _ => erases_pure _
  | update assignments conditions =>
    exact erases_action_bind (h.update assignments conditions) fun _ => erases_pure _
  | delete conditions => exact erases_action_bind (h.delete conditions) fun _ => erases_pure _

variable {r' : Registry (σ × List Call)} {r : Registry σ}

/-- Either registry knows a name exactly if the other does. -/
theorem Registry.ErasesTo.find? (h : r'.ErasesTo r) (name : String) :
    (r'.find? name = none ∧ r.find? name = none) ∨
      ∃ t' t, r'.find? name = some t' ∧ r.find? name = some t ∧ t'.ErasesTo t := by
  unfold Registry.find?
  induction h with
  | nil => exact .inl ⟨rfl, rfl⟩
  -- name by name: the first entry is the one, or the others are searched
  | @cons e' e _ _ he _ ih =>
    rw [List.find?_cons, List.find?_cons, he.1]
    cases e.1 == keyOf name with
    | true => exact .inr ⟨e'.2, e.2, rfl, rfl, he.2⟩
    | false => exact ih

/-- **Every text comes to the same.** -/
theorem Registry.ErasesTo.execute (h : r'.ErasesTo r) (text : String) :
    Erases (r'.execute text).run (r.execute text).run := by
  -- the text is read as the same statement, which is for a table that both have
  refine erases_action_bind (erases_lift _) fun statement => ?_
  unfold tableFor
  cases statement.tableName with
  | none => exact fun _ => rfl
  | some name =>
    dsimp only
    rcases h.find? name with ⟨hnone', hnone⟩ | ⟨t', t, hsome', hsome, ht⟩
    · rw [hnone', hnone]
      exact fun _ => rfl
    · rw [hsome', hsome]
      exact ht.execute statement

end Pushdown
