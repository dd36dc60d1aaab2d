import Pushdown.Proofs.Collection.Sessions

/-!
# Connections are balanced

A text that is carried out by a collection either needs the store or does not, `NeedsStore`. If it
does not, the store is not called at all, not even for a connection. If it does, one connection is
asked for; if that is refused, nothing further is done, and if it is made, it is given up exactly
once, after everything that is asked over it. `session_balanced` says this of every statement of a
session over any number of collections, whose stores may refuse connections and fail at calls as
they like.

Three kinds of statements use a store, each after checks of its own: a spec has to be planned, all
rows have to be prepared, all conditions have to be in the filter. What they have in common is that
the checks come first and all of the rest is over one connection, so there is one lemma for them,
`balances_withConnection`. Of the rest it needs only that connections are not its business, that is
that it `Adds` calls to the record that are made over one.
-/

namespace Pushdown

variable {σ α β : Type} {store : Store σ} {needed : Prop}

/-! ### Specification -/

/-- **A call that is made over a connection.** -/
def Call.asks : Call → Bool
  | .query _ | .insert _ _ | .delete _ _ => true
  | .connect | .disconnect => false

/-- **Calls with a balanced connection**, the first of them in the state `s`. -/
inductive Bracketed (store : Store σ) (s : σ) : List Call → Prop where
  /-- The connection is refused. Nothing is asked, and nothing given up. -/
  | refused {e : QueryError} (h : (store.connect.run.run s).1 = .error e) :
    Bracketed store s [.connect]
  /-- The connection is made, and given up after all that is asked over it. -/
  | made {asked : List Call} (h : (store.connect.run.run s).1 = .ok ())
      (hasked : ∀ call ∈ asked, call.asks = true) :
    Bracketed store s (.connect :: asked ++ [.disconnect])

/-- **A collection and where it is held**: the key under which it is found, and its store. -/
structure Mount (σ : Type) where
  key : String
  settings : Settings
  name : String
  store : Store σ

def Mount.table (m : Mount σ) : Table σ := Collection.table m.settings m.store m.name

/-- The same collection, whose store writes down its calls. -/
def Mount.recording (m : Mount σ) : Mount (σ × List Call) :=
  ⟨m.key, m.settings, m.name, m.store.recording⟩

/-- **What a collection needs its store for.** -/
def Mount.Needs (m : Mount σ) : Handover → Prop
  -- a spec that has a plan
  | .select spec => IsOk ((Collection.pipeline m.settings m.name).plan spec)
  -- records each of which can be prepared
  | .insert records => ∀ record ∈ records, IsOk (Collection.prepareRow record)
  -- there are no updates
  | .update _ _ => False
  -- conditions that the store can carry out as a whole
  | .delete conditions => Collection.Removable conditions

/-- **A text needs the store of a collection**: it is a statement for this collection, and comes to
something that the store is needed for. -/
def NeedsStore (mounts : List (Mount σ)) (text : String) (m : Mount σ) : Prop :=
  ∃ statement handed, Statement.read text = .ok statement ∧
    (∃ name, statement.tableName = some name ∧
      mounts.find? (·.key == Registry.keyOf name) = some m) ∧
    statement.handover (Collection.schema m.name) = .ok handed ∧ m.Needs handed

/-- **The registry of collections**, each with its own store. -/
def Collection.mounted (mounts : List (Mount σ)) : Registry σ :=
  mounts.map fun m => (m.key, m.table)

/-- The calls that were written down in a turn. -/
def Turn.calls (t : Turn (σ × List Call)) : List Call := t.after.2.drop t.before.2.length

/-- **A turn with balanced connections.** -/
structure Turn.Balanced (mounts : List (Mount σ)) (t : Turn (σ × List Call)) : Prop where
  recorded : t.after.2 = t.before.2 ++ t.calls
  /-- Without need of a store a text fails, and does nothing. -/
  idle : (∀ m, ¬ NeedsStore mounts t.text m) →
    t.calls = [] ∧ t.after = t.before ∧ ∃ e, t.outcome = .error e
  /-- The store that is needed is asked for one connection. -/
  connected : ∀ m, NeedsStore mounts t.text m → Bracketed m.store t.before.1 t.calls

/-! ### Work over a connection -/

/-- **Work over a connection is balanced**, whatever it comes to. -/
theorem bracketed_withConnection {work : Action (σ × List Call) α}
    (hwork : Keeps (Adds (·.asks = true)) work.run) (x : σ × List Call) :
    ∃ calls, Bracketed store x.1 calls ∧
      ((store.recording.withConnection work).run.run x).2.2 = x.2 ++ calls := by
  obtain ⟨s, log⟩ := x
  rw [Store.withConnection_run]
  have hconnect : store.recording.connect.run.run (s, log) =
      ((store.connect.run.run s).1, (store.connect.run.run s).2, log ++ [.connect]) := rfl
  -- whether the connection is made depends on the store alone, not on the record
  rw [hconnect]
  cases houtcome : (store.connect.run.run s).1 with
  | error e => exact ⟨[.connect], .refused houtcome, rfl⟩
  | ok =>
    -- giving the connection up is written down after all that the work has asked
    obtain ⟨asked, hlog, hasks⟩ := hwork ((store.connect.run.run s).2, log ++ [.connect])
    refine ⟨.connect :: asked ++ [.disconnect], .made houtcome hasks, ?_⟩
    refine (congrArg (· ++ [Call.disconnect]) hlog).trans ?_
    simp only [List.append_assoc, List.cons_append, List.nil_append]

/-- **Work that uses a store if it is needed, and does nothing else.** -/
def Balances (store : Store σ) (needed : Prop) (work : Action (σ × List Call) α) : Prop :=
  ∀ x, (¬ needed ∧ ∃ e, work.run.run x = (.error e, x)) ∨
    (needed ∧ ∃ calls, Bracketed store x.1 calls ∧ (work.run.run x).2.2 = x.2 ++ calls)

/-- **A check before work over a connection**: the store is needed if the check is passed. -/
theorem balances_withConnection {check : Except QueryError β} {work : β → Action (σ × List Call) α}
    (hneeded : needed ↔ IsOk check) (hwork : ∀ b, Keeps (Adds (·.asks = true)) (work b).run) :
    Balances store needed (liftM check >>= fun b => store.recording.withConnection (work b)) := by
  intro x
  rw [lift_bind_run]
  cases check with
  | error e => exact .inl ⟨fun h => not_isOk_error (hneeded.1 h), e, rfl⟩
  | ok b => exact .inr ⟨hneeded.2 isOk_ok, bracketed_withConnection (hwork b) x⟩

theorem Balances.map {work : Action (σ × List Call) α} (h : Balances store needed work)
    (f : α → β) : Balances store needed (do return f (← work)) := by
  intro x
  rw [map_run]
  refine (h x).imp_left fun ⟨hnot, e, he⟩ => ⟨hnot, e, ?_⟩
  rw [he]
  rfl

/-! ### Work of a collection -/

namespace Collection

theorem keeps_source (store : Store σ) (name : String) (request : RemoteRequest)
    (token : Option String) :
    Keeps (Adds (·.asks = true)) (source store.recording name request token) := by
  unfold source
  split
  -- a search without a limit is refused before the store is asked
  case isTrue => exact keeps_pure _
  case isFalse => exact keeps_bind (keeps_recorded (·.asks = true) rfl _) fun _ => keeps_pure _

theorem isOk_removalFilter_iff {cs : Conditions} : IsOk (removalFilter cs) ↔ Removable cs :=
  ⟨fun ⟨_, h⟩ => (removalFilter_eq_ok_iff.1 h).1, fun h => ⟨_, removalFilter_eq_ok_iff.2 ⟨h, rfl⟩⟩⟩

/-- **A collection uses its store if it needs it.** -/
theorem perform_balances (m : Mount σ) (handed : Handover) :
    Balances m.store (m.Needs handed) (m.recording.table.perform handed) := by
  cases handed with
  | select spec =>
    -- a plan is all that a query needs: what follows is over the connection
    refine Balances.map (balances_withConnection Iff.rfl fun plan => ?_) Outcome.rows
    exact keeps_runShaped (keeps_source m.store m.name _) _ .ok
  -- one record that cannot be prepared is enough to leave the store alone
  | insert records =>
    refine Balances.map (balances_withConnection isOk_mapM_iff.symm fun sent => ?_) Outcome.affected
    exact keeps_call (·.asks = true) rfl _
  | update assignments conditions => exact fun x => .inl ⟨id, Table.refuseUpdate m.name, rfl⟩
  | delete conditions =>
    refine Balances.map
      (balances_withConnection isOk_removalFilter_iff.symm fun filter => ?_) Outcome.affected
    exact keeps_call (·.asks = true) rfl _

/-! ### Turns -/

variable {mounts : List (Mount σ)} {text : String}

theorem find?_mounted (mounts : List (Mount σ)) (name : String) :
    (mounted mounts).find? name =
      (mounts.find? (·.key == Registry.keyOf name)).map Mount.table := by
  unfold mounted Registry.find?
  rw [List.find?_map, Option.map_map]
  rfl

theorem find?_mounted_recording (mounts : List (Mount σ)) (name : String) :
    (mounted (mounts.map Mount.recording)).find? name =
      (mounts.find? (·.key == Registry.keyOf name)).map fun m => m.recording.table := by
  rw [find?_mounted, List.find?_map, Option.map_map]
  rfl

/-- **What a text that is handed over comes to**: it is for one collection, and needs its store if
what is handed over does. -/
theorem needsStore_of_handover {t : Table (σ × List Call)} {handed : Handover}
    (h : (mounted (mounts.map Mount.recording)).handover text = .ok (t, handed)) :
    ∃ m : Mount σ, t = m.recording.table ∧
      ∀ m', NeedsStore mounts text m' ↔ m' = m ∧ m.Needs handed := by
  obtain ⟨statement, hread, ⟨name, hname, hfind⟩, hhanded⟩ := Registry.handover_eq_ok_iff.1 h
  rw [find?_mounted_recording] at hfind
  obtain ⟨m, hm, rfl⟩ := Option.map_eq_some_iff.1 hfind
  refine ⟨m, rfl, fun m' => ⟨?_, ?_⟩⟩
  · -- a text is one statement, with one name and one handover
    rintro ⟨statement', handed', hread', ⟨name', hname', hm'⟩, hhanded', hneeds⟩
    obtain rfl := Except.ok.inj (hread.symm.trans hread')
    obtain rfl := Option.some.inj (hname.symm.trans hname')
    obtain rfl := Option.some.inj (hm.symm.trans hm')
    obtain rfl := Except.ok.inj (hhanded.symm.trans hhanded')
    exact ⟨rfl, hneeds⟩
  · rintro ⟨rfl, hneeds⟩
    exact ⟨statement, handed, hread, ⟨name, hname, hm⟩, hhanded, hneeds⟩

theorem not_needsStore_of_handover {e : QueryError}
    (h : (mounted (mounts.map Mount.recording)).handover text = .error e) (m : Mount σ) :
    ¬ NeedsStore mounts text m := by
  rintro ⟨statement, handed, hread, ⟨name, hname, hm⟩, hhanded, -⟩
  have hfind : (mounted (mounts.map Mount.recording)).find? name = some m.recording.table := by
    rw [find?_mounted_recording, hm]
    rfl
  exact absurd (h.symm.trans
    (Registry.handover_eq_ok_iff.2 ⟨statement, hread, ⟨name, hname, hfind⟩, hhanded⟩)) nofun

theorem balanced_of_calls {t : Turn (σ × List Call)} {calls : List Call}
    (hrecorded : t.after.2 = t.before.2 ++ calls)
    (hidle : (∀ m, ¬ NeedsStore mounts t.text m) →
      calls = [] ∧ t.after = t.before ∧ ∃ e, t.outcome = .error e)
    (hconnected : ∀ m, NeedsStore mounts t.text m → Bracketed m.store t.before.1 calls) :
    t.Balanced mounts := by
  have hcalls : t.calls = calls := by
    -- the calls of a turn are what the record has beyond the one before it
    rw [Turn.calls, hrecorded, List.drop_left]
  subst hcalls
  exact ⟨hrecorded, hidle, hconnected⟩

/-- **Every turn is balanced.** -/
theorem turn_balanced (mounts : List (Mount σ)) (text : String) (x : σ × List Call) :
    ((mounted (mounts.map Mount.recording)).turn text x).Balanced mounts := by
  have hexecute := Registry.execute_run (mounted (mounts.map Mount.recording)) text x
  unfold Registry.turn
  cases hhandover : (mounted (mounts.map Mount.recording)).handover text with
  | error e =>
    -- the text is no statement, or for no collection, or there is nothing to hand over
    rw [hexecute, hhandover]
    exact balanced_of_calls (List.append_nil _).symm (fun _ => ⟨rfl, rfl, e, rfl⟩)
      fun m hm => absurd hm (not_needsStore_of_handover hhandover m)
  | ok handed =>
    obtain ⟨t, handed⟩ := handed
    obtain ⟨m, rfl, hneeds⟩ := needsStore_of_handover hhandover
    rw [hexecute, hhandover]
    dsimp only
    -- what is handed over may still be refused by the checks, and then nothing is done
    rcases perform_balances m handed x with ⟨hnot, e, he⟩ | ⟨hneeded, calls, hbracketed, hlog⟩
    · rw [he]
      exact balanced_of_calls (List.append_nil _).symm (fun _ => ⟨rfl, rfl, e, rfl⟩)
        fun m' hm' => absurd ((hneeds m').1 hm').2 hnot
    · refine balanced_of_calls hlog (fun hnone => ?_) fun m' hm' => ?_
      · exact absurd ((hneeds m).2 ⟨rfl, hneeded⟩) (hnone m)
      · -- only one mount can be needed, namely the one that was found
        obtain ⟨rfl, -⟩ := (hneeds m').1 hm'
        exact hbracketed

theorem mounted_erasesTo (mounts : List (Mount σ)) :
    (mounted (mounts.map Mount.recording)).ErasesTo (mounted mounts) := by
  unfold Registry.ErasesTo mounted
  rw [List.map_map, List.forall₂_map_left_iff, List.forall₂_map_right_iff, List.forall₂_same]
  exact fun m _ => ⟨rfl, table_erasesTo m.settings m.store m.name⟩

/-! ### Sessions -/

/-- **Connections are balanced in every session.** Writing down the calls to the stores changes
neither outcomes nor states. Every turn is balanced, and nothing is written down but in turns: at
the end the record is what it was, and the calls of the turns in their order. -/
theorem session_balanced (mounts : List (Mount σ)) (texts : List String) (s : σ)
    (log : List Call) :
    let r := mounted (mounts.map Mount.recording)
    (r.session texts (s, log)).map Turn.erased = (mounted mounts).session texts s ∧
    (∀ t ∈ r.session texts (s, log), t.Balanced mounts) ∧
    (r.leaves texts (s, log)).2 = log ++ (r.session texts (s, log)).flatMap Turn.calls := by
  refine ⟨(mounted_erasesTo mounts).session texts (s, log), ?_⟩
  have hleaves (x : σ × List Call) :
      (∀ t ∈ (mounted (mounts.map Mount.recording)).session texts x, t.Balanced mounts) ∧
      ((mounted (mounts.map Mount.recording)).leaves texts x).2 =
        x.2 ++ ((mounted (mounts.map Mount.recording)).session texts x).flatMap Turn.calls := by
    -- along the texts, from any state and record
    induction texts generalizing x with
    | nil => exact ⟨nofun, (List.append_nil _).symm⟩
    | cons text texts ih =>
      have hturn := turn_balanced mounts text x
      obtain ⟨hturns, hlog⟩ := ih ((mounted (mounts.map Mount.recording)).turn text x).after
      -- the record after the first turn is where the session goes on
      refine ⟨List.forall_mem_cons.2 ⟨hturn, hturns⟩, hlog.trans ?_⟩
      rw [hturn.recorded, List.append_assoc]
      rfl
  exact hleaves (s, log)

/-! ### An instance -/

/-- One collection over a store in memory. -/
def documentMounts : List (Mount MemoryStore) :=
  [⟨"docs", .standard, "docs", MemoryStore.plain⟩]

/-- A removal of documents under a filter. -/
def documentRemoval (selection : Sql.Expr) : Sql.Delete :=
  ⟨[⟨⟨.named [.bare "docs"], "docs", none, ""⟩, []⟩], none, some selection, [], none⟩

/-- A removal is handed over as the conditions of its filter. -/
theorem handover_documentRemoval {text : String} {selection : Sql.Expr} {cs : Conditions}
    (hread : Sql.Statement.readAll text = .ok [.delete (documentRemoval selection)])
    (hconditions : conditionsOf (.ofSql (TableRef.scope ⟨"docs", none⟩) selection) = .ok cs) :
    (mounted (documentMounts.map Mount.recording)).handover text =
      .ok (table .standard MemoryStore.plain.recording "docs", .delete cs) := by
  have hstatement : Statement.read text = .ok (.delete ⟨⟨"docs", none⟩,
      some (.ofSql (TableRef.scope ⟨"docs", none⟩) selection)⟩) :=
    Statement.read_of_readAll hread
  have hfind : (mounted (documentMounts.map Mount.recording)).find? "docs" =
      some (table .standard MemoryStore.plain.recording "docs") :=
    Registry.find?_singleton (by decide +kernel : Registry.keyOf "docs" = "docs")
      (table .standard MemoryStore.plain.recording "docs")
  exact Registry.handover_eq_ok_iff.2 ⟨_, hstatement, ⟨"docs", rfl, hfind⟩,
    map_eq_ok_iff.2 ⟨_, hconditions, rfl⟩⟩

/-- Two removals, of which only the first needs the store. The connection is given up if the store
is busy, and not if it was refused. -/
theorem session_balanced_removals :
    let texts := ["DELETE FROM docs WHERE metadata.lang = 'en'", "DELETE FROM docs WHERE id = 1"]
    let r := mounted (documentMounts.map Mount.recording)
    ∀ run ∈ [({ MemoryStore.empty with deleteFailure := some (.protocol "busy") },
        [Call.connect, .delete "docs" "(lang == \"en\")", .disconnect]),
      ({ MemoryStore.empty with refusal := some "down" }, [Call.connect])],
      (r.leaves texts (run.1, [])).2 = run.2 ∧
      (r.session texts (run.1, [])).map Turn.erased = (mounted documentMounts).session texts run.1 ∧
      ∀ t ∈ r.session texts (run.1, []), t.Balanced documentMounts := by
  intro texts r
  -- both texts are read once, whatever the state of the store is
  have htokens : Sql.tokens "DELETE FROM docs WHERE metadata.lang = 'en'".toList =
      .ok [.word (.bare "DELETE") "DELETE", .word (.bare "FROM") "FROM",
        .word (.bare "docs") "DOCS", .word (.bare "WHERE") "WHERE",
        .word (.bare "metadata") "METADATA", .symbol ".", .word (.bare "lang") "LANG", .symbol "=",
        .quoted "en"] :=
    eq_ok_of_toOption (by decide +kernel)
  have htokens' : Sql.tokens "DELETE FROM docs WHERE id = 1".toList =
      .ok [.word (.bare "DELETE") "DELETE", .word (.bare "FROM") "FROM",
        .word (.bare "docs") "DOCS", .word (.bare "WHERE") "WHERE", .word (.bare "id") "ID",
        .symbol "=", .number "1" false] :=
    eq_ok_of_toOption (by decide +kernel)
  have hread : Sql.Statement.readAll "DELETE FROM docs WHERE metadata.lang = 'en'" =
      .ok [.delete (documentRemoval (.binary (.column [.bare "metadata", .bare "lang"]) .eq
        (.quoted "en")))] :=
    Sql.Statement.readAll_of_tokens htokens rfl
  have hread' : Sql.Statement.readAll "DELETE FROM docs WHERE id = 1" =
      .ok [.delete (documentRemoval (.binary (.column [.bare "id"]) .eq (.number "1" false)))] :=
    Sql.Statement.readAll_of_tokens htokens' rfl
  have hhandover : r.handover "DELETE FROM docs WHERE metadata.lang = 'en'" =
      .ok (table .standard MemoryStore.plain.recording "docs",
        .delete [⟨.eq, "metadata.lang", .scalar "en"⟩]) :=
    handover_documentRemoval hread (eq_ok_of_toOption (by decide +kernel))
  have hhandover' : r.handover "DELETE FROM docs WHERE id = 1" =
      .ok (table .standard MemoryStore.plain.recording "docs",
        .delete [⟨.eq, "id", .scalar (.ofInt 1)⟩]) :=
    handover_documentRemoval hread' (eq_ok_of_toOption (by decide +kernel))
  have hfilter : removalFilter [⟨.eq, "metadata.lang", .scalar "en"⟩] =
      .ok "(lang == \"en\")" := eq_ok_of_toOption (by decide +kernel)
  have hfirst (x : MemoryStore × List Call) :
      (r.turn "DELETE FROM docs WHERE metadata.lang = 'en'" x).after =
        ((MemoryStore.plain.recording.withConnection (Store.call
          (MemoryStore.plain.recording.delete "docs" "(lang == \"en\")"))).run.run x).2 := by
    -- the only call is a deletion under the filter that `hfilter` gives
    unfold Registry.turn
    rw [Registry.execute_run, hhandover]
    show ((do return Outcome.affected (← delete MemoryStore.plain.recording "docs" _) :
      Action (MemoryStore × List Call) Outcome).run.run x).2 = _
    rw [map_run, delete_of_ok _ _ hfilter]
  have hsecond (x : MemoryStore × List Call) :
      (r.turn "DELETE FROM docs WHERE id = 1" x).after = x := by
    -- an identifier under a bare name is not in the filter, so nothing is asked of the store
    unfold Registry.turn
    rw [Registry.execute_run, hhandover']
    rfl
  have hleaves (s : MemoryStore) : r.leaves texts (s, []) =
      ((MemoryStore.plain.recording.withConnection (Store.call
        (MemoryStore.plain.recording.delete "docs" "(lang == \"en\")"))).run.run (s, [])).2 := by
    unfold Registry.leaves Registry.leaves Registry.leaves
    rw [hsecond, hfirst]
  intro run hrun
  obtain ⟨herased, hbalanced, -⟩ := session_balanced documentMounts texts run.1 []
  refine ⟨?_, herased, hbalanced⟩
  rw [hleaves]
  revert run
  exact List.forall_mem_cons.2 ⟨fun _ _ => rfl, List.forall_mem_singleton.2 fun _ _ => rfl⟩

end Collection

end Pushdown
