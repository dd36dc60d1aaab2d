import Pushdown.Proofs.Outcome
import Pushdown.Registry

/-!
# What tables are handed

A statement is read, its table is found, and what the table has to do is made up from the statement:
a spec, records, assignments or conditions. All of this can fail, and none of it acts on a state. It
is `Registry.handover` here, and `execute_run` says that carrying a statement out is to make up its
handover and to have the table perform it.

A table is any implementation on any state, so what it has been handed cannot be read off its state.
`Registry.recording` puts a record beside it: the same tables, which write down what they are
handed. `execute_recording` is the statement about it: the outcome and the state are those without a
record, and the record grows by the handover, or by nothing if there is none.
-/

namespace Pushdown

variable {σ α β γ : Type}

/-! ### Handovers -/

/-- **What a table has to do.** -/
inductive Handover where
  /-- Answer a spec. -/
  | select (spec : Spec)
  /-- Insert records. -/
  | insert (records : List Record)
  /-- Change the rows that meet conditions. -/
  | update (assignments : Record) (conditions : Conditions)
  /-- Remove the rows that meet conditions. -/
  | delete (conditions : Conditions)

/-- What a statement has a table do, given the columns of the table. -/
def Statement.handover (schema : Schema) : Statement → Except QueryError Handover
  | .select s => (Spec.ofSelect s).map .select
  | .insert i => (insertRecords schema i).map .insert
  | .update u => (updateParts schema u).map fun parts => .update parts.1 parts.2
  | .delete d => (conditionsOf? d.selection).map .delete

/-- The table does it. -/
def Table.perform (t : Table σ) : Handover → Action σ Outcome
  | .select spec => return .rows (← t.select spec)
  | .insert records => return .affected (← t.insert records)
  | .update assignments conditions => return .affected (← t.update assignments conditions)
  | .delete conditions => return .affected (← t.delete conditions)

/-- **The table that a text is for, and what it is handed.** -/
def Registry.handover (r : Registry σ) (text : String) :
    Except QueryError (Table σ × Handover) := do
  let s ← Statement.read text
  let t ← r.tableFor s
  let h ← s.handover t.schema
  return (t, h)

theorem Registry.tableFor_eq_ok_iff {r : Registry σ} {statement : Statement} {t : Table σ} :
    r.tableFor statement = .ok t ↔
      ∃ name, statement.tableName = some name ∧ r.find? name = some t := by
  unfold Registry.tableFor
  cases statement.tableName with
  | none => exact iff_of_false nofun nofun
  | some name =>
    simp only [Option.some.injEq, exists_eq_left']
    cases r.find? name with
    | none => exact iff_of_false nofun nofun
    | some t' => exact ⟨fun h => congrArg some (Except.ok.inj h),
        fun h => congrArg Except.ok (Option.some.inj h)⟩

/-- The table of a registry of one table. -/
theorem Registry.find?_singleton {name : String} (hkey : Registry.keyOf name = name)
    (t : Table σ) : Registry.find? [(name, t)] name = some t := by
  unfold Registry.find?
  rw [hkey, List.find?_singleton, if_pos (beq_self_eq_true name)]
  rfl

/-- **When a text is handed over**: it is read, its table is there, and there is something for the
table to do. -/
theorem Registry.handover_eq_ok_iff {r : Registry σ} {text : String} {t : Table σ} {h : Handover} :
    r.handover text = .ok (t, h) ↔ ∃ statement, Statement.read text = .ok statement ∧
      (∃ name, statement.tableName = some name ∧ r.find? name = some t) ∧
      statement.handover t.schema = .ok h := by
  unfold Registry.handover
  rw [bind_eq_ok_iff]
  refine exists_congr fun statement => and_congr_right fun _ => ?_
  -- reading comes first in both, and then the table has to be there
  rw [bind_eq_ok_iff]
  constructor
  · rintro ⟨t, ht, hhandover⟩
    obtain ⟨h, hh, hhandover⟩ := bind_eq_ok_iff.1 hhandover
    obtain ⟨rfl, rfl⟩ := Prod.mk.inj (Except.ok.inj hhandover)
    exact ⟨tableFor_eq_ok_iff.1 ht, hh⟩
  · rintro ⟨ht, hh⟩
    exact ⟨t, tableFor_eq_ok_iff.2 ht, bind_eq_ok_iff.2 ⟨h, hh, rfl⟩⟩

/-! ### Dispatch -/

/-- Work in two parts, in states. -/
theorem bind_run (work : Action σ α) (f : α → Action σ β) (s : σ) :
    (work >>= f).run.run s = match (work.run.run s).1 with
      | .ok a => (f a).run.run (work.run.run s).2
      | .error e => (.error e, (work.run.run s).2) := by
  rw [ExceptT.run_bind, StateT.run_bind]
  obtain ⟨outcome, s₁⟩ := work.run.run s
  cases outcome <;> rfl

/-- What is made of the result of work does not act. -/
theorem map_run (work : Action σ α) (f : α → β) (s : σ) :
    (do return f (← work) : Action σ β).run.run s =
      ((work.run.run s).1.map f, (work.run.run s).2) := by
  rw [bind_run]
  obtain ⟨outcome, s₁⟩ := work.run.run s
  cases outcome <;> rfl

/-- A step that can fail and does not act, before work that does. -/
theorem lift_bind_run (x : Except QueryError α) (f : α → Action σ β) (s : σ) :
    (liftM x >>= f : Action σ β).run.run s = match x with
      | .ok a => (f a).run.run s
      | .error e => (.error e, s) := by
  cases x <;> rfl

/-- Two such steps are one. -/
theorem lift_bind_bind (x : Except QueryError α) (g : α → Except QueryError β)
    (f : β → Action σ γ) :
    (liftM (x >>= g) >>= f : Action σ γ) = liftM x >>= fun a => liftM (g a) >>= f := by
  cases x <;> rfl

theorem lift_map_bind (x : Except QueryError α) (g : α → β) (f : β → Action σ γ) :
    (liftM (x.map g) >>= f : Action σ γ) = liftM x >>= fun a => f (g a) := by
  cases x <;> rfl

/-- A table carries out a statement by performing its handover. -/
theorem Table.execute_eq (t : Table σ) (statement : Statement) :
    t.execute statement = liftM (statement.handover t.schema) >>= t.perform := by
  -- what is performed is the call that the statement is sent to
  cases statement with
  | select | insert | update | delete =>
    unfold Statement.handover
    rw [lift_map_bind]
    rfl

/-- **Carrying out a statement is performing its handover**, and nothing if there is none. -/
theorem Registry.execute_run (r : Registry σ) (text : String) (s : σ) :
    (r.execute text).run.run s = match r.handover text with
      | .ok handed => (handed.1.perform handed.2).run.run s
      | .error e => (.error e, s) := by
  -- reading, finding and making up are one step that can fail
  have heq : r.execute text =
      liftM (r.handover text) >>= fun handed => handed.1.perform handed.2 := by
    unfold Registry.handover
    rw [lift_bind_bind]
    refine congrArg (liftM (Statement.read text) >>= ·) (funext fun statement => ?_)
    rw [lift_bind_bind]
    refine congrArg (liftM (r.tableFor statement) >>= ·) (funext fun t => ?_)
    rw [lift_bind_bind, Table.execute_eq]
    rfl
  rw [heq, lift_bind_run]
  cases r.handover text <;> rfl

/-! ### Records of handovers -/

/-- **What tables were handed**, by their names and in order. -/
abbrev HandoverLog := List (String × Handover)

/-- Work on a state that writes a handover down. -/
def noted (note : String × Handover) (work : Action σ α) : Action (σ × HandoverLog) α :=
  ExceptT.mk fun s => ((work.run.run s.1).1, (work.run.run s.1).2, s.2 ++ [note])

/-- Whatever is made of the result of such work, outcome and state are those without a record. -/
theorem noted_bind_run (note : String × Handover) (work : Action σ α) (f : α → β) (s : σ)
    (log : HandoverLog) :
    (do return f (← noted note work) : Action (σ × HandoverLog) β).run.run (s, log) =
      (((do return f (← work) : Action σ β).run.run s).1,
        ((do return f (← work) : Action σ β).run.run s).2, log ++ [note]) := by
  have hnoted : (noted note work).run.run (s, log) =
      ((work.run.run s).1, (work.run.run s).2, log ++ [note]) := rfl
  -- both go on from the same outcome and state
  rw [ExceptT.run_bind, StateT.run_bind, hnoted, ExceptT.run_bind, StateT.run_bind]
  obtain ⟨outcome, s₁⟩ := work.run.run s
  cases outcome <;> rfl

/-- **A table that writes down what it is handed.** -/
def Table.recording (t : Table σ) : Table (σ × HandoverLog) where
  schema := t.schema
  capabilities := t.capabilities
  select spec := noted (t.name, .select spec) (t.select spec)
  insert records := noted (t.name, .insert records) (t.insert records)
  update assignments conditions :=
    noted (t.name, .update assignments conditions) (t.update assignments conditions)
  delete conditions := noted (t.name, .delete conditions) (t.delete conditions)

/-- **The tables of a registry, each of which writes down what it is handed.** -/
def Registry.recording (r : Registry σ) : Registry (σ × HandoverLog) :=
  r.map fun entry => (entry.1, entry.2.recording)

/-- The record of a handover is the handover. -/
theorem Table.perform_recording (t : Table σ) (h : Handover) (s : σ) (log : HandoverLog) :
    (t.recording.perform h).run.run (s, log) =
      (((t.perform h).run.run s).1, ((t.perform h).run.run s).2, log ++ [(t.name, h)]) := by
  cases h with
  | select | insert | update | delete => exact noted_bind_run _ _ _ s log

theorem Registry.find?_recording (r : Registry σ) (name : String) :
    r.recording.find? name = (r.find? name).map Table.recording := by
  -- the records do not touch the names, so the same entry is found
  unfold Registry.find? Registry.recording
  rw [List.find?_map, Option.map_map, Option.map_map]
  rfl

theorem Registry.tableFor_recording (r : Registry σ) (statement : Statement) :
    r.recording.tableFor statement = (r.tableFor statement).map Table.recording := by
  unfold Registry.tableFor
  cases statement.tableName with
  | none => rfl
  | some name =>
    dsimp only
    rw [find?_recording]
    cases r.find? name <;> rfl

/-- A record changes nothing of what is handed over. -/
theorem Registry.handover_recording (r : Registry σ) (text : String) :
    r.recording.handover text =
      (r.handover text).map fun handed => (handed.1.recording, handed.2) := by
  unfold Registry.handover
  -- a record only replaces the table, and each step before it is the same
  cases Statement.read text with
  | error e => rfl
  | ok statement =>
    change (r.recording.tableFor statement >>= _) = Except.map _ (r.tableFor statement >>= _)
    rw [tableFor_recording]
    cases r.tableFor statement with
    | error e => rfl
    | ok t =>
      change (statement.handover t.schema >>= _) = Except.map _ (statement.handover t.schema >>= _)
      cases statement.handover t.schema <;> rfl

/-- **A statement carried out by tables that write down what they are handed.** Outcome and state
are those without a record. The record grows by the one handover; where there is none, the statement
fails, and neither state nor record changes. -/
theorem Registry.execute_recording (r : Registry σ) (text : String) (s : σ) (log : HandoverLog) :
    (r.recording.execute text).run.run (s, log) =
      (((r.execute text).run.run s).1, ((r.execute text).run.run s).2,
        match r.handover text with
          | .ok handed => log ++ [(handed.1.name, handed.2)]
          | .error _ => log) := by
  rw [execute_run, execute_run, handover_recording]
  cases r.handover text with
  | error e => rfl
  | ok handed => exact Table.perform_recording handed.1 handed.2 s log

end Pushdown
