import Pushdown.Proofs.Collection.Removal
import Pushdown.Proofs.Registry.Insertion
import Pushdown.Proofs.Registry.Uniform
import Pushdown.Proofs.Store.Changes
import Pushdown.Proofs.Store.Erasure

/-!
# Sessions change a store by complete statements

A session is any sequence of texts, each of them carried out on the state that the one before left.
`session_whole` is about the sessions of a registry of collections over a store that
`ChangesWholly`: every statement leaves the contents as they were, or carries out one change in
full.

Which of the two it is depends on the kind of the statement, `Statement.Permits`. A selection asks
for no change and an update does nothing at all. An insertion asks for one change at most, an
insertion of the prepared records of all its rows; if one of the rows cannot be prepared, the
statement fails and does nothing. Failures of a statement leave the contents as they were, whichever
step of it fails; the one exception is the failure that the store itself answers to a change.

The argument is by cases on the handover of a text. A text without one does nothing
(`Registry.execute_run`), and a collection does one of the four things that it can be handed: quiet
work, nothing, or one change over a connection, `Store.ChangesWholly.effect`. The run lemma is by
induction on the texts: what the contents are in the end is what they were, after the changes that
were carried out, in their order.

Calls can be told apart because the store writes them down. That changes nothing about a session but
the record itself, `Registry.ErasesTo.session`.
-/

namespace Pushdown

variable {σ κ : Type} {store : Store σ} {contents : σ → κ} {carryOut : Call → κ → κ}
  {r : Registry (σ × List Call)} {x : σ × List Call} {columns : List String}

/-! ### Specification -/

/-- **One statement of a session**: its text, the state that it found, what it came to, and the
state that it left. -/
structure Turn (σ : Type) where
  text : String
  before : σ
  outcome : Except QueryError Outcome
  after : σ

def Registry.turn (r : Registry σ) (text : String) (s : σ) : Turn σ :=
  ⟨text, s, ((r.execute text).run.run s).1, ((r.execute text).run.run s).2⟩

/-- **A session**: one turn for each text, from the state that the one before left. -/
def Registry.session (r : Registry σ) : List String → σ → List (Turn σ)
  | [], _ => []
  | text :: texts, s => r.turn text s :: r.session texts (r.turn text s).after

/-- The state that a session leaves. -/
def Registry.leaves (r : Registry σ) : List String → σ → σ
  | [], s => s
  | text :: texts, s => r.leaves texts (r.turn text s).after

/-- What a row of values becomes in a collection: its record, prepared. -/
def Collection.preparedRow (columns : List String) (row : List Expression) :
    Except QueryError Record :=
  insertRecord columns row >>= prepareRow

/-- **What a statement of each kind may do** in a turn with these calls. -/
def Statement.Permits (r : Registry (σ × List Call)) (contents : σ → κ)
    (t : Turn (σ × List Call)) (calls : List Call) : Statement → Prop
  -- a selection asks for no change
  | .select _ => contents t.after.1 = contents t.before.1 ∧ ∀ c ∈ calls, c.changes = false
  -- an insertion asks for one, by the records of all rows, and for nothing with a bad row
  | .insert i =>
    OneChange (fun call => ∃ target sent, r.find? i.table.name = some target ∧
      call = .insert target.name sent ∧
      List.Forall₂ (fun row record => Collection.preparedRow i.columns row = .ok record)
        i.rows sent) calls ∧
    ((∃ row ∈ i.rows, ¬ IsOk (Collection.preparedRow i.columns row)) →
      (∃ e, t.outcome = .error e) ∧ t.after = t.before)
  -- an update does nothing
  | .update _ => (∃ e, t.outcome = .error e) ∧ t.after = t.before
  -- a removal asks for one change
  | .delete d =>
    OneChange (fun call => ∃ target filter, r.find? d.table.name = some target ∧
      call = .delete target.name filter) calls

/-- **A turn that changes contents by a complete statement or not at all**, with these calls. -/
structure Turn.Whole (r : Registry (σ × List Call)) (store : Store σ) (contents : σ → κ)
    (carryOut : Call → κ → κ) (t : Turn (σ × List Call)) (calls : List Call) : Prop where
  /-- One change is carried out in full, or none, and a failure that is not the answer to a change
  leaves contents as they were. -/
  effect : Effect store contents carryOut t.before t.outcome t.after calls
  /-- The statement, if the text is one, does what its kind may do. -/
  statement : ∀ statement, Statement.read t.text = .ok statement →
    statement.Permits r contents t calls

/-- **A registry of collections** of a store, each under a key, with settings and a name. -/
def Collection.registry (entries : List (String × Settings × String)) (store : Store σ) :
    Registry σ :=
  entries.map fun e => (e.1, table e.2.1 store e.2.2)

/-- A turn without the record of calls. -/
def Turn.erased (t : Turn (σ × List Call)) : Turn σ := ⟨t.text, t.before.1, t.outcome, t.after.1⟩

/-! ### Work of a collection -/

namespace Collection

theorem quiet_source (hstore : store.ChangesWholly contents carryOut) (name : String)
    (request : RemoteRequest) (token : Option String) :
    Quiet contents (source store.recording name request token) := by
  unfold source
  split
  -- a search without a limit is refused before the store is asked
  case isTrue => exact keeps_pure _
  case isFalse =>
    have hquery : Quiet contents (store.recording.query (queryOf name request)) :=
      quiet_recorded rfl (hstore.query _)
    exact keeps_bind hquery fun answer => keeps_pure _

/-- **A selection is quiet.** -/
theorem quiet_select (hstore : store.ChangesWholly contents carryOut) (settings : Settings)
    (name : String) (spec : Spec) :
    Quiet contents ((table settings store.recording name).select spec).run := by
  refine keeps_action_bind (keeps_lift _) fun plan => ?_
  exact quiet_withConnection hstore (keeps_runShaped (quiet_source hstore name _) _ .ok)

theorem preparedRows_of_forall₂ {rows : List (List Expression)} {records sent : List Record}
    (hrecords : List.Forall₂ (fun row record => insertRecord columns row = .ok record) rows records)
    (hsent : List.Forall₂ (fun record stored => prepareRow record = .ok stored) records sent) :
    List.Forall₂ (fun row stored => preparedRow columns row = .ok stored) rows sent := by
  -- row by row: the record of a row, and then what is prepared of it
  induction hrecords generalizing sent with
  | nil =>
    obtain rfl := List.forall₂_nil_left_iff.1 hsent
    exact .nil
  | cons hrecord _ ih =>
    obtain ⟨stored, rest, hstored, hrest, rfl⟩ := List.forall₂_cons_left_iff.1 hsent
    exact .cons (bind_eq_ok_iff.2 ⟨_, hrecord, hstored⟩) (ih hrest)

/-- **An insertion prepares all rows or does nothing.** -/
theorem insert_effect (hstore : store.ChangesWholly contents carryOut) (name : String)
    (records : List Record) (x : σ × List Call) :
    let after := (insert store.recording name records).run.run x
    (∃ e, after = (.error e, x)) ∨
    ∃ sent calls, List.Forall₂ (fun record stored => prepareRow record = .ok stored) records sent ∧
      OneChange (· = .insert name sent) calls ∧
      Effect store contents carryOut x after.1 after.2 calls := by
  dsimp only
  unfold insert
  rw [lift_bind_run]
  -- all records are prepared before there is a connection
  cases hsent : records.mapM prepareRow with
  | error e => exact .inl ⟨e, rfl⟩
  | ok sent =>
    obtain ⟨calls, hcalls, heffect⟩ := hstore.effect (.insert name sent) rfl x
    exact .inr ⟨sent, calls, mapM_eq_ok_iff.1 hsent, hcalls, heffect⟩

/-- **A removal has a filter or does nothing.** -/
theorem delete_effect (hstore : store.ChangesWholly contents carryOut) (name : String)
    (cs : Conditions) (x : σ × List Call) :
    let after := (delete store.recording name cs).run.run x
    ∃ calls, OneChange (fun call => ∃ filter, call = .delete name filter) calls ∧
      Effect store contents carryOut x after.1 after.2 calls := by
  dsimp only
  cases hfilter : removalFilter cs with
  -- a removal without a filter was refused before there is a connection
  | error e =>
    rw [delete_run_of_error _ _ _ hfilter]
    exact ⟨[], .nothing, .refl _⟩
  | ok filter =>
    rw [delete_of_ok _ _ hfilter]
    obtain ⟨calls, hcalls, heffect⟩ := hstore.effect (.delete name filter) rfl x
    exact ⟨calls, hcalls.imp fun call hcall => ⟨filter, hcall⟩, heffect⟩

/-- **A record has no influence on a collection.** -/
theorem table_erasesTo (settings : Settings) (store : Store σ) (name : String) :
    (table settings store.recording name).ErasesTo (table settings store name) where
  schema := rfl
  select spec := by
    have hsource (request : RemoteRequest) (token : Option String) :
        Erases (source store.recording name request token) (source store name request token) := by
      -- both sources refuse the same searches, and otherwise only the query differs
      unfold source
      split
      case isTrue => exact erases_pure _
      case isFalse => exact erases_bind (erases_recorded _ _) fun answer => erases_pure _
    refine erases_action_bind (erases_lift _) fun plan => ?_
    exact erases_withConnection (erases_runShaped hsource _ plan .ok)
  insert records := by
    refine erases_action_bind (erases_lift _) fun sent => ?_
    exact erases_withConnection (erases_call (erases_recorded _ _))
  update assignments conditions := fun _ => rfl
  delete conditions := by
    refine erases_action_bind (erases_lift _) fun filter => ?_
    exact erases_withConnection (erases_call (erases_recorded _ _))

theorem registry_erasesTo (entries : List (String × Settings × String)) (store : Store σ) :
    (registry entries store.recording).ErasesTo (registry entries store) := by
  unfold Registry.ErasesTo registry
  rw [List.forall₂_map_left_iff, List.forall₂_map_right_iff, List.forall₂_same]
  exact fun e _ => ⟨rfl, table_erasesTo e.2.1 store e.2.2⟩

end Collection

/-! ### Turns -/

theorem Turn.whole_of_nothing (text : String) (e : QueryError) :
    Turn.Whole r store contents carryOut ⟨text, x, .error e, x⟩ [] where
  effect := .refl _
  statement statement _ := by
    -- a failure that does nothing is permitted to statements of every kind
    cases statement with
    | select => exact ⟨rfl, nofun⟩
    | insert => exact ⟨.nothing, fun _ => ⟨⟨e, rfl⟩, rfl⟩⟩
    | update => exact ⟨⟨e, rfl⟩, rfl⟩
    | delete => exact .nothing

theorem Turn.whole_of_read {t : Turn (σ × List Call)} {calls : List Call} {statement : Statement}
    (hread : Statement.read t.text = .ok statement)
    (heffect : Effect store contents carryOut t.before t.outcome t.after calls)
    (hpermits : statement.Permits r contents t calls) :
    t.Whole r store contents carryOut calls :=
  ⟨heffect, fun _ h => Except.ok.inj (hread.symm.trans h) ▸ hpermits⟩

section

variable (hstore : store.ChangesWholly contents carryOut) {text : String} {settings : Settings}
  {name : String}
include hstore

theorem Collection.select_whole {selection : SelectStatement}
    (hread : Statement.read text = .ok (.select selection)) (spec : Spec) (x : σ × List Call) :
    let after := ((table settings store.recording name).perform (.select spec)).run.run x
    ∃ calls, Turn.Whole r store contents carryOut ⟨text, x, after.1, after.2⟩ calls := by
  have hrun : ((table settings store.recording name).perform (.select spec)).run.run x = _ :=
    map_run _ Outcome.rows x
  have hquiet := quiet_select hstore settings name spec x
  obtain ⟨calls, hcalls, heffect⟩ := hquiet.effect store carryOut _
  rw [hrun]
  -- the rows are an outcome among others, which makes no difference to the effect
  exact ⟨calls, Turn.whole_of_read hread (heffect.map _) ⟨hquiet.kept, hcalls⟩⟩

theorem Collection.insert_whole {i : InsertStatement} {records : List Record}
    (hread : Statement.read text = .ok (.insert i))
    (hfind : r.find? i.table.name = some (table settings store.recording name))
    (hrecords : List.Forall₂ (fun row record => insertRecord i.columns row = .ok record) i.rows
      records) (x : σ × List Call) :
    let after := ((table settings store.recording name).perform (.insert records)).run.run x
    ∃ calls, Turn.Whole r store contents carryOut ⟨text, x, after.1, after.2⟩ calls := by
  have hrun : ((table settings store.recording name).perform (.insert records)).run.run x =
      (((insert store.recording name records).run.run x).1.map .affected,
        ((insert store.recording name records).run.run x).2) :=
    map_run _ Outcome.affected x
  rw [hrun]
  rcases insert_effect hstore name records x with
    ⟨e, he⟩ | ⟨sent, calls, hsent, hcalls, heffect⟩
  · -- nothing is sent, so nothing is done
    rw [he]
    exact ⟨[], Turn.whole_of_nothing text e⟩
  · -- what is sent are the prepared rows, so none of them is a bad one
    have hprepared := preparedRows_of_forall₂ hrecords hsent
    refine ⟨calls, Turn.whole_of_read hread (heffect.map _) ⟨?_, ?_⟩⟩
    · exact hcalls.imp fun call hcall => ⟨_, sent, hfind, hcall, hprepared⟩
    · rintro ⟨row, hrow, hbad⟩
      obtain ⟨record, -, hrecord⟩ := exists_of_mem_left hprepared hrow
      exact absurd ⟨record, hrecord⟩ hbad

theorem Collection.delete_whole {d : DeleteStatement}
    (hread : Statement.read text = .ok (.delete d))
    (hfind : r.find? d.table.name = some (table settings store.recording name))
    (cs : Conditions) (x : σ × List Call) :
    let after := ((table settings store.recording name).perform (.delete cs)).run.run x
    ∃ calls, Turn.Whole r store contents carryOut ⟨text, x, after.1, after.2⟩ calls := by
  have hrun : ((table settings store.recording name).perform (.delete cs)).run.run x = _ :=
    map_run _ Outcome.affected x
  obtain ⟨calls, hcalls, heffect⟩ := delete_effect hstore name cs x
  rw [hrun]
  refine ⟨calls, Turn.whole_of_read hread (heffect.map _) ?_⟩
  exact hcalls.imp fun call ⟨filter, hcall⟩ => ⟨_, filter, hfind, hcall⟩

/-- **Every turn is whole.** -/
theorem Collection.turn_whole (entries : List (String × Settings × String)) (text : String)
    (x : σ × List Call) :
    ∃ calls, ((registry entries store.recording).turn text x).Whole
      (registry entries store.recording) store contents carryOut calls := by
  have hexecute := Registry.execute_run (registry entries store.recording) text x
  unfold Registry.turn
  cases hhandover : (registry entries store.recording).handover text with
  | error e =>
    -- the text is no statement, or its table is not there, or it has nothing for the table to do
    rw [hexecute, hhandover]
    exact ⟨[], Turn.whole_of_nothing text e⟩
  | ok handed =>
    obtain ⟨target, handed⟩ := handed
    obtain ⟨statement, hread, ⟨named, hname, hfind⟩, hstatement⟩ :=
      Registry.handover_eq_ok_iff.1 hhandover
    obtain ⟨entry, hentry, rfl⟩ := Registry.mem_of_find?_eq_some hfind
    obtain ⟨⟨key, settings, name⟩, -, rfl⟩ := List.mem_map.1 hentry
    -- so the text is a statement, and it is carried out by a collection
    rw [hexecute, hhandover]
    dsimp only at hfind hstatement ⊢
    cases statement with
    | select selection =>
      obtain ⟨spec, -, rfl⟩ := map_eq_ok_iff.1 hstatement
      exact select_whole hstore hread spec x
    | insert i =>
      obtain ⟨records, hrecords, rfl⟩ := map_eq_ok_iff.1 hstatement
      obtain rfl := Option.some.inj hname
      exact insert_whole hstore hread hfind (insertRecords_eq_ok_iff.1 hrecords).2 x
    -- there are no updates: the table refuses them before the store is asked
    | update u =>
      obtain ⟨⟨assignments, conditions⟩, -, rfl⟩ := map_eq_ok_iff.1 hstatement
      exact ⟨[], Turn.whole_of_nothing text (Table.refuseUpdate name)⟩
    | delete d =>
      obtain ⟨conditions, -, rfl⟩ := map_eq_ok_iff.1 hstatement
      obtain rfl := Option.some.inj hname
      exact delete_whole hstore hread hfind conditions x

end

/-! ### Sessions -/

/-- A session is that without a record, turn by turn. -/
theorem Registry.ErasesTo.session {r' : Registry (σ × List Call)} {r : Registry σ}
    (h : r'.ErasesTo r) (texts : List String) (x : σ × List Call) :
    (r'.session texts x).map Turn.erased = r.session texts x.1 := by
  induction texts generalizing x with
  | nil => rfl
  | cons text texts ih =>
    -- the turn of the recording registry, without the record, is the other turn
    have hturn : (r'.turn text x).erased = r.turn text x.1 := by
      have hexecute := h.execute text x
      unfold turn Turn.erased
      rw [← hexecute]
    rw [Registry.session, Registry.session, List.map_cons, ih, ← hturn]
    rfl

/-- **Sessions change contents by complete statements.** Writing down the calls to the store changes
neither outcomes nor states. Every turn of a session is whole, and the contents that the session
leaves are those that it found, after changes that its statements asked for and that were carried
out in full. -/
theorem Collection.session_whole (hstore : store.ChangesWholly contents carryOut)
    (entries : List (String × Settings × String)) (texts : List String) (s : σ)
    (log : List Call) :
    let r := registry entries store.recording
    (r.session texts (s, log)).map Turn.erased = (registry entries store).session texts s ∧
    (∀ t ∈ r.session texts (s, log), ∃ calls, t.Whole r store contents carryOut calls) ∧
    ChangedBy contents carryOut (s, log) (r.leaves texts (s, log)) := by
  refine ⟨(registry_erasesTo entries store).session texts (s, log), ?_⟩
  -- the turns and the changes go together along the texts, from any state
  generalize (s, log) = x
  induction texts generalizing x with
  | nil => exact ⟨nofun, .refl x⟩
  | cons text texts ih =>
    obtain ⟨calls, hwhole⟩ := turn_whole hstore entries text x
    obtain ⟨hturns, hchanged⟩ := ih ((registry entries store.recording).turn text x).after
    exact ⟨List.forall_mem_cons.2 ⟨⟨calls, hwhole⟩, hturns⟩,
      hwhole.effect.changedBy.trans hchanged⟩

/-! ### An instance -/

/-- A registry of one collection. -/
def documents (store : Store σ) : Registry σ :=
  Collection.registry [("docs", .standard, "docs")] store

/-- An insertion of documents. -/
def documentInsertion (columns : List Sql.Name) (rows : List (List Sql.Expr)) : Sql.Insert where
  table := [.bare "docs"]
  columns := columns
  source := some ⟨none, .values rows false, [], none, none, none, [], none, none, [], none, none⟩

theorem find?_documents (store : Store σ) :
    (documents store).find? "docs" =
      some (Collection.table .standard store "docs") :=
  Registry.find?_singleton (by decide +kernel : Registry.keyOf "docs" = "docs")
    (Collection.table .standard store "docs")

/-- What is left of an insertion of one document and one of two of which the second is bad. -/
theorem Collection.session_whole_badRow :
    let texts := ["INSERT INTO docs (id) VALUES (1)",
      "INSERT INTO docs (id, metadata) VALUES (2, NULL), (3, 4)"]
    let r := documents MemoryStore.plain.recording
    (r.leaves texts (.empty, [])).1.rows = [[("id", .ofInt 1)]] ∧
    (r.session texts (.empty, [])).map Turn.erased =
      (documents MemoryStore.plain).session texts .empty ∧
    (∀ t ∈ r.session texts (.empty, []), ∃ calls,
      t.Whole r MemoryStore.plain MemoryStore.rows MemoryStore.changed calls) ∧
    ChangedBy MemoryStore.rows MemoryStore.changed (.empty, []) (r.leaves texts (.empty, [])) := by
  have htokens : Sql.tokens "INSERT INTO docs (id) VALUES (1)".toList =
      .ok [.word (.bare "INSERT") "INSERT", .word (.bare "INTO") "INTO",
        .word (.bare "docs") "DOCS", .symbol "(", .word (.bare "id") "ID", .symbol ")",
        .word (.bare "VALUES") "VALUES", .symbol "(", .number "1" false, .symbol ")"] :=
    eq_ok_of_toOption (by decide +kernel)
  have htokens' : Sql.tokens
      "INSERT INTO docs (id, metadata) VALUES (2, NULL), (3, 4)".toList =
      .ok [.word (.bare "INSERT") "INSERT", .word (.bare "INTO") "INTO",
        .word (.bare "docs") "DOCS", .symbol "(", .word (.bare "id") "ID", .symbol ",",
        .word (.bare "metadata") "METADATA", .symbol ")", .word (.bare "VALUES") "VALUES",
        .symbol "(", .number "2" false, .symbol ",", .word (.bare "NULL") "NULL", .symbol ")",
        .symbol ",", .symbol "(", .number "3" false, .symbol ",", .number "4" false,
        .symbol ")"] :=
    eq_ok_of_toOption (by decide +kernel)
  have hread : Sql.Statement.readAll "INSERT INTO docs (id) VALUES (1)" =
      .ok [.insert (documentInsertion [.bare "id"] [[.number "1" false]])] :=
    Sql.Statement.readAll_of_tokens htokens rfl
  have hread' : Sql.Statement.readAll
      "INSERT INTO docs (id, metadata) VALUES (2, NULL), (3, 4)" =
      .ok [.insert (documentInsertion [.bare "id", .bare "metadata"]
        [[.number "2" false, .null], [.number "3" false, .number "4" false]])] :=
    Sql.Statement.readAll_of_tokens htokens' rfl
  have hhandover : (documents MemoryStore.plain.recording).handover
      "INSERT INTO docs (id) VALUES (1)" =
      .ok (table .standard MemoryStore.plain.recording "docs",
        .insert [[("id", .ofInt 1)]]) :=
    (Registry.handover_insert_eq_ok_iff hread).2
      ⟨find?_documents _, _, _, rfl, fun _ => List.forall_mem_singleton.2 rfl, rfl, rfl⟩
  have hhandover' : (documents MemoryStore.plain.recording).handover
      "INSERT INTO docs (id, metadata) VALUES (2, NULL), (3, 4)" =
      .ok (table .standard MemoryStore.plain.recording "docs",
        .insert [[("id", .ofInt 2), ("metadata", .null)],
          [("id", .ofInt 3), ("metadata", .ofInt 4)]]) :=
    (Registry.handover_insert_eq_ok_iff hread').2
      ⟨find?_documents _, _, _, rfl, fun _ => List.forall_mem_cons.2 ⟨rfl,
        List.forall_mem_singleton.2 rfl⟩, rfl, rfl⟩
  -- the first text leaves one document, by one call over a connection
  have hfirst : ((documents MemoryStore.plain.recording).turn
      "INSERT INTO docs (id) VALUES (1)" (.empty, [])).after =
      ({ MemoryStore.empty with rows := [[("id", .ofInt 1)]], opened := 1, closed := 1 },
        [.connect, .insert "docs" [[("id", .ofInt 1)]], .disconnect]) := by
    unfold Registry.turn
    rw [Registry.execute_run, hhandover]
    rfl
  -- the second is refused when its second row is prepared, so not even the first is sent
  have hsecond (x : MemoryStore × List Call) :
      ((documents MemoryStore.plain.recording).turn
        "INSERT INTO docs (id, metadata) VALUES (2, NULL), (3, 4)" x).after = x := by
    unfold Registry.turn
    rw [Registry.execute_run, hhandover']
    rfl
  refine ⟨?_, Collection.session_whole MemoryStore.changesWholly _ _ .empty []⟩
  unfold Registry.leaves Registry.leaves Registry.leaves
  rw [hsecond, hfirst]

end Pushdown
