import Pushdown.Proofs.Store.Preservation
import Pushdown.Store.Store

/-!
# What a store is asked for

A store is any implementation on any state, so what it has been asked for cannot be read off its
state. `Store.recording` puts a record beside it: the same store, which writes down every call in
the order in which they come. Its outcomes and its states are those of the store, whatever the
record (`withConnection_recording` for the work over a connection), so a statement about the record
is one about the calls that the store receives.

Nothing is ever taken out of a record. What a piece of work `Adds` to it is therefore a preorder of
states, for calls of any kind.
-/

namespace Pushdown

variable {σ α : Type}

/-! ### The record -/

/-- Work on a state that writes a call down. -/
def recorded (call : Call) (work : StateM σ α) : StateM (σ × List Call) α := fun s =>
  ((work s.1).1, (work s.1).2, s.2 ++ [call])

/-- **A store that writes down what it is asked for.** -/
def Store.recording (store : Store σ) : Store (σ × List Call) where
  connect := ExceptT.mk (recorded .connect store.connect.run)
  disconnect := recorded .disconnect store.disconnect
  query query := recorded (.query query) (store.query query)
  insert collection records :=
    recorded (.insert collection records) (store.insert collection records)
  delete collection filter := recorded (.delete collection filter) (store.delete collection filter)

theorem recorded_run (call : Call) (work : StateM σ α) (s : σ) (log : List Call) :
    (recorded call work).run (s, log) = ((work.run s).1, (work.run s).2, log ++ [call]) := rfl

/-! ### What is added to a record -/

/-- **A state after calls of a kind**: the record has them behind what it had, and no others. -/
def Adds (p : Call → Prop) (x y : σ × List Call) : Prop :=
  ∃ calls, y.2 = x.2 ++ calls ∧ ∀ call ∈ calls, p call

section

variable {p : Call → Prop} {call : Call} {x y z : σ × List Call}

theorem Adds.refl (x : σ × List Call) : Adds p x x := ⟨[], (List.append_nil _).symm, nofun⟩

theorem Adds.trans (hxy : Adds p x y) (hyz : Adds p y z) : Adds p x z := by
  obtain ⟨before, hbefore, hp⟩ := hxy
  obtain ⟨after, hafter, hp'⟩ := hyz
  -- the calls of the second piece of work stand behind those of the first
  refine ⟨before ++ after, ?_, List.forall_mem_append.2 ⟨hp, hp'⟩⟩
  rw [hafter, hbefore, List.append_assoc]

instance : IsPreorder (σ × List Call) (Adds p) where
  refl := .refl
  trans _ _ _ := .trans

theorem keeps_recorded (p : Call → Prop) (hcall : p call) (work : StateM σ α) :
    Keeps (Adds p) (recorded call work) := fun _ =>
  ⟨[call], rfl, List.forall_mem_singleton.2 hcall⟩

theorem keeps_call (p : Call → Prop) (hcall : p call) (work : StateM σ (Except FetchError α)) :
    Keeps (Adds p) (Store.call (recorded call work)).run := by
  -- whether the answer is a failure makes no difference to the record
  refine keeps_bind (keeps_recorded p hcall work) fun answer => ?_
  cases answer with
  | ok a => exact keeps_pure _
  | error e => exact keeps_pure _

end

/-! ### Work over a connection -/

/-- **Work over a connection, in states**: nothing is done without a connection, and one that was
made is given up after the work. -/
theorem Store.withConnection_run (store : Store σ) (work : Action σ α) (s : σ) :
    (store.withConnection work).run.run s =
      match (store.connect.run.run s).1 with
      | .ok _ =>
        ((work.run.run (store.connect.run.run s).2).1,
          (store.disconnect.run (work.run.run (store.connect.run.run s).2).2).2)
      | .error e => (.error e, (store.connect.run.run s).2) := by
  unfold withConnection
  rw [ExceptT.run_bind, StateT.run_bind]
  -- outcome and state of the connection decide how it goes on
  obtain ⟨outcome, s₁⟩ := store.connect.run.run s
  cases outcome with
  | ok => rfl
  | error => rfl

/-- A call as part of a statement does what the call does, and reports its failure as one of the
remote side. -/
theorem Store.call_run (work : StateM σ (Except FetchError α)) (s : σ) :
    (Store.call work).run.run s =
      ((work.run s).1.mapError (.remoteFetch 0 0), (work.run s).2) := by
  unfold call
  rw [ExceptT.run_mk, StateT.run_bind]
  obtain ⟨outcome, s₁⟩ := work.run s
  cases outcome with
  | ok => rfl
  | error => rfl

/-- **One call over a connection, written down**: outcome and state are those of the store, and the
record has the call between its connection, or the attempt to connect alone. -/
theorem Store.withConnection_recording (store : Store σ) (call : Call)
    (work : StateM σ (Except FetchError α)) (s : σ) (log : List Call) :
    (store.recording.withConnection (Store.call (recorded call work))).run.run (s, log) =
      (((store.withConnection (Store.call work)).run.run s).1,
        ((store.withConnection (Store.call work)).run.run s).2,
        log ++ match (store.connect.run.run s).1 with
          | .ok _ => [.connect, call, .disconnect]
          | .error _ => [.connect]) := by
  -- connecting is written down before its outcome is known
  have hconnect : store.recording.connect.run.run (s, log) =
      ((store.connect.run.run s).1, (store.connect.run.run s).2, log ++ [.connect]) := rfl
  rw [withConnection_run, withConnection_run, hconnect]
  -- without a connection the attempt to make it is all that is written down
  cases (store.connect.run.run s).1 with
  | ok =>
    simp only [call_run, recorded_run]
    change (_, _, log ++ [.connect] ++ [call] ++ [.disconnect]) = _
    rw [List.append_assoc, List.append_assoc]
    rfl
  | error => rfl

end Pushdown
