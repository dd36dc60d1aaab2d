import Pushdown.Proofs.Registry.Handover
import Pushdown.Proofs.Store.Preservation
import Pushdown.Proofs.Store.Recording
import Pushdown.Store.Memory

/-!
# Changes of what a store holds

Of the calls to a store two ask for a change of what it holds, `Call.changes`. A store that
`ChangesWholly` carries such a call out in full or not at all, and keeps its contents at every other
call. Whether a call that fails was carried out is left open: an answer can be lost after the work
is done.

The lemmas are about pieces of work over such a store that writes down its calls. Work that asks for
no change is `Quiet`, whatever it reads. States without a change are a preorder, so this goes
through all ways to put work together (`keeps_bind`, `keeps_runShaped`). One change over a
connection has the `Effect` that contents are as they were, or the change is carried out; and if
that work fails with the contents changed, it is the call itself that the store answered with the
failure.
-/

namespace Pushdown

variable {σ κ α β : Type} {store : Store σ} {contents : σ → κ} {carryOut : Call → κ → κ}
  {x y z : σ × List Call}

/-! ### Specification -/

/-- **A call asks for a change** of what the store holds. -/
def Call.changes : Call → Bool
  | .insert _ _ | .delete _ _ => true
  | .connect | .disconnect | .query _ => false

/-- What a store does for a change. Another call has nothing to do here. -/
def Store.change (store : Store σ) : Call → StateM σ (Except FetchError Nat)
  | .insert collection records => store.insert collection records
  | .delete collection filter => store.delete collection filter
  | .connect | .disconnect | .query _ => pure (.ok 0)

/-- **A store that changes its contents by whole calls.** `carryOut` says what a change makes of the
contents if it is carried out in full. -/
structure Store.ChangesWholly (store : Store σ) (contents : σ → κ)
    (carryOut : Call → κ → κ) : Prop where
  connect : ∀ s, contents (store.connect.run.run s).2 = contents s
  disconnect : ∀ s, contents (store.disconnect.run s).2 = contents s
  query : ∀ q s, contents ((store.query q).run s).2 = contents s
  /-- A change is carried out in full or not at all. -/
  change : ∀ call s, contents ((store.change call).run s).2 = contents s ∨
    contents ((store.change call).run s).2 = carryOut call (contents s)

/-- **A state without a change**: contents are as they were, and the calls that were written down
ask for nothing else. -/
structure Unchanged (contents : σ → κ) (x y : σ × List Call) : Prop where
  kept : contents y.1 = contents x.1
  recorded : ∃ calls, y.2 = x.2 ++ calls ∧ ∀ c ∈ calls, c.changes = false

/-- **Work that asks for no change**, whatever the state. -/
def Quiet (contents : σ → κ) (work : StateM (σ × List Call) α) : Prop :=
  ∀ x, Unchanged contents x (work.run x).2

/-- **Calls for one change at most**: none, an attempt to connect, or one change over a connection.
-/
inductive OneChange (p : Call → Prop) : List Call → Prop where
  | nothing : OneChange p []
  | unconnected : OneChange p [.connect]
  | change {call : Call} (h : p call) : OneChange p [.connect, call, .disconnect]

/-- **Contents that come from whole changes**: those before, after some of the changes that were
asked for, each of them carried out in full. -/
def ChangedBy (contents : σ → κ) (carryOut : Call → κ → κ) (x y : σ × List Call) : Prop :=
  ∃ calls carried : List Call, y.2 = x.2 ++ calls ∧
    carried.Sublist (calls.filter Call.changes) ∧
    contents y.1 = carried.foldl (fun held call => carryOut call held) (contents x.1)

/-- **What work may come to**, from the state `x` to the state `y` with these calls. -/
structure Effect (store : Store σ) (contents : σ → κ) (carryOut : Call → κ → κ)
    (x : σ × List Call) (outcome : Except QueryError α) (y : σ × List Call)
    (calls : List Call) : Prop where
  recorded : y.2 = x.2 ++ calls
  /-- Contents are as they were, or one change was asked for and is carried out in full. -/
  complete : contents y.1 = contents x.1 ∨
    ∃ call, call.changes = true ∧ calls = [.connect, call, .disconnect] ∧
      contents y.1 = carryOut call (contents x.1)
  /-- If the work fails, contents are as they were, or the failure is the answer of the store to the
  one change that was asked for. -/
  failure : ∀ e, outcome = .error e → contents y.1 = contents x.1 ∨
    ∃ call cause, call.changes = true ∧ calls = [.connect, call, .disconnect] ∧
      ((store.change call).run (store.connect.run.run x.1).2).1 = .error cause ∧
      e = .remoteFetch 0 0 cause

theorem OneChange.imp {p q : Call → Prop} (hpq : ∀ call, p call → q call) {calls : List Call}
    (h : OneChange p calls) : OneChange q calls := by
  cases h with
  | nothing => exact .nothing
  | unconnected => exact .unconnected
  | change hcall => exact .change (hpq _ hcall)

/-! ### Quiet work -/

theorem Unchanged.refl (x : σ × List Call) : Unchanged contents x x :=
  ⟨rfl, Adds.refl x⟩

theorem Unchanged.trans (hxy : Unchanged contents x y) (hyz : Unchanged contents y z) :
    Unchanged contents x z :=
  ⟨hyz.kept.trans hxy.kept, Adds.trans hxy.recorded hyz.recorded⟩

instance : IsPreorder (σ × List Call) (Unchanged contents) where
  refl := .refl
  trans _ _ _ := .trans

/-- A call that asks for no change is quiet if the store keeps its contents at it. -/
theorem quiet_recorded {call : Call} {work : StateM σ α} (hcall : call.changes = false)
    (hwork : ∀ s, contents (work.run s).2 = contents s) : Quiet contents (recorded call work) := by
  intro x
  exact ⟨hwork x.1, keeps_recorded (·.changes = false) hcall work x⟩

theorem quiet_withConnection (hstore : store.ChangesWholly contents carryOut)
    {work : Action (σ × List Call) α} (hwork : Quiet contents work.run) :
    Quiet contents (store.recording.withConnection work).run := by
  have hconnect : Quiet contents (recorded .connect store.connect.run) :=
    quiet_recorded rfl hstore.connect
  -- connecting, the work and disconnecting, each of which keeps contents
  refine keeps_action_bind hconnect fun _ => ?_
  refine keeps_bind hwork fun outcome => ?_
  exact keeps_bind (quiet_recorded rfl hstore.disconnect) fun _ => keeps_pure outcome

/-! ### Effects -/

theorem Unchanged.effect (h : Unchanged contents x y) (store : Store σ) (carryOut : Call → κ → κ)
    (outcome : Except QueryError α) :
    ∃ calls, (∀ c ∈ calls, c.changes = false) ∧
      Effect store contents carryOut x outcome y calls := by
  -- no change was asked for, so contents are as they were, however the work ends
  obtain ⟨calls, hcalls, hquiet⟩ := h.recorded
  exact ⟨calls, hquiet, hcalls, .inl h.kept, fun _ _ => .inl h.kept⟩

theorem Effect.refl (outcome : Except QueryError α) :
    Effect store contents carryOut x outcome x [] :=
  ⟨(List.append_nil _).symm, .inl rfl, fun _ _ => .inl rfl⟩

/-- An effect does not depend on what is made of the result. -/
theorem Effect.map {outcome : Except QueryError α} {calls : List Call}
    (h : Effect store contents carryOut x outcome y calls) (f : α → β) :
    Effect store contents carryOut x (outcome.map f) y calls := by
  refine ⟨h.recorded, h.complete, fun e he => h.failure e ?_⟩
  -- only a failure stays a failure, and it stays the same
  cases outcome with
  | ok a => exact absurd he nofun
  | error e' => exact congrArg _ (Except.error.inj he)

theorem Store.recording_change {call : Call} (h : call.changes = true) :
    store.recording.change call = recorded call (store.change call) := by
  cases call with
  | insert | delete => rfl
  | connect | disconnect | query => exact absurd h nofun

/-- **One change over a connection**: contents are as they were, or the change is carried out, and a
failure with a connection is the answer to the change. -/
theorem Store.ChangesWholly.effect (hstore : store.ChangesWholly contents carryOut) (call : Call)
    (hcall : call.changes = true) (x : σ × List Call) :
    let after := (store.recording.withConnection
      (Store.call (store.recording.change call))).run.run x
    ∃ calls, OneChange (· = call) calls ∧
      Effect store contents carryOut x after.1 after.2 calls := by
  obtain ⟨s, log⟩ := x
  dsimp only
  rw [recording_change hcall, withConnection_recording, withConnection_run, call_run]
  -- making a connection and giving it up keep contents, so only the change itself counts
  have hconnect := hstore.connect s
  cases (store.connect.run.run s).1 with
  | error e =>
    exact ⟨[.connect], .unconnected, rfl, .inl hconnect, fun _ _ => .inl hconnect⟩
  | ok =>
    have hwhole : ∀ s', contents s' = contents ((store.change call).run
        (store.connect.run.run s).2).2 →
        contents s' = contents s ∨ contents s' = carryOut call (contents s) := fun s' hs' => by
      rw [hs', ← hconnect]
      exact hstore.change call _
    refine ⟨[.connect, call, .disconnect], .change rfl, rfl, ?_, fun e he => .inr ?_⟩
    · exact (hwhole _ (hstore.disconnect _)).imp id fun h => ⟨call, hcall, rfl, h⟩
    · -- with a connection the outcome is the answer
      dsimp only at he ⊢
      cases hanswer : ((store.change call).run (store.connect.run.run s).2).1 with
      | ok n =>
        rw [hanswer] at he
        exact absurd he nofun
      | error cause =>
        rw [hanswer] at he
        exact ⟨call, cause, hcall, rfl, hanswer, (Except.error.inj he).symm⟩

/-! ### Whole changes -/

theorem ChangedBy.refl (x : σ × List Call) : ChangedBy contents carryOut x x :=
  ⟨[], [], (List.append_nil _).symm, List.nil_sublist _, rfl⟩

theorem ChangedBy.trans (hxy : ChangedBy contents carryOut x y)
    (hyz : ChangedBy contents carryOut y z) : ChangedBy contents carryOut x z := by
  -- the changes carried out first are among those asked for first
  obtain ⟨before, carried, hbefore, hcarried, hy⟩ := hxy
  obtain ⟨after, carried', hafter, hcarried', hz⟩ := hyz
  refine ⟨before ++ after, carried ++ carried', ?_, ?_, ?_⟩
  · rw [hafter, hbefore, List.append_assoc]
  · rw [List.filter_append]
    exact hcarried.append hcarried'
  · rw [hz, hy, List.foldl_append]

/-- An effect is a whole change, or none. -/
theorem Effect.changedBy {outcome : Except QueryError α} {calls : List Call}
    (h : Effect store contents carryOut x outcome y calls) :
    ChangedBy contents carryOut x y := by
  rcases h.complete with hkept | ⟨call, hcall, rfl, hchanged⟩
  · exact ⟨calls, [], h.recorded, List.nil_sublist _, hkept⟩
  · -- of the three calls only the one in the middle asks for a change
    have hfilter : [Call.connect, call, .disconnect].filter Call.changes = [call] := by
      rw [List.filter_cons_of_neg Bool.false_ne_true, List.filter_cons_of_pos hcall]
      rfl
    exact ⟨_, [call], h.recorded, hfilter ▸ List.Sublist.refl _, hchanged⟩

/-! ### A store in memory -/

namespace MemoryStore

/-- What a change makes of the records of a store in memory. -/
def changed : Call → List Record → List Record
  | .insert _ records, rows => rows ++ records
  | .delete _ filter, rows => (rows.partition (meets filter)).2
  | .connect, rows | .disconnect, rows | .query _, rows => rows

/-- A store in memory that reports to nobody. -/
def plain : Store MemoryStore := MemoryStore.store id id fun _ s => s

def empty : MemoryStore := ⟨[], none, none, none, none, none, 0, 0⟩

/-- **A store in memory changes its records by whole calls.** -/
theorem changesWholly : plain.ChangesWholly rows changed where
  -- whether a connection is refused is up to the state, which is the same behind it
  connect s := by
    obtain ⟨_, _, refusal, _⟩ := s
    cases refusal <;> rfl
  disconnect s := rfl
  query q s := rfl
  change call s := by
    -- a failure that the state has ready is answered instead of the change
    cases call with
    | connect | disconnect | query => exact .inl rfl
    | insert collection records =>
      obtain ⟨_, _, _, _, failure, _⟩ := s
      cases failure with
      | none => exact .inr rfl
      | some => exact .inl rfl
    | delete collection filter =>
      obtain ⟨_, _, _, _, _, failure, _⟩ := s
      cases failure with
      | none => exact .inr rfl
      | some => exact .inl rfl

end MemoryStore

end Pushdown
