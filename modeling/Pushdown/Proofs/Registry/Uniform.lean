import Pushdown.Proofs.Plan.Columns
import Pushdown.Proofs.Registry.Handover
import Pushdown.Proofs.Rows.Unification
import Pushdown.Proofs.Statement.Acceptance
import Pushdown.Proofs.Statement.Projections
import Pushdown.Proofs.Store.Recording
import Pushdown.Tables.Collection
import Pushdown.Tables.Dataset
import Pushdown.Tables.News
import Pushdown.Tables.VideoSite

/-!
# Every answer is a uniform table

The answer to a selection has distinct columns, and each of its rows has exactly these columns in
their order, `execute_rows_uniform`. Which columns they are can be told from the selection and the
declared columns alone, `SelectStatement.answerColumns`, so what a remote side delivers has no
influence on the shape of an answer.

Nothing obliges a table in general to plan its answers. So the statement is about registries of the
kinds of tables that there are, `Table.Kind`, over any source or store. Each of them makes a plan
for the spec it is handed, and whatever it then does for payloads, the answer is the plan finished
on some of them (`Table.Kind.select_planned`). The columns of the plan are those of the spec, and
those of the spec are the ones that the selection asks for, because a selection that was read from a
text asks for something (`Statement.targets_ne_nil_of_read`); without targets a spec would ask for
all columns, with no wildcard anywhere.
-/

namespace Pushdown

variable {σ α β : Type} {s s' : σ}

/-! ### Work that succeeds -/

/-- Work in two parts succeeds if both do, the second from the state that the first left. -/
theorem bind_run_eq_ok {work : Action σ α} {f : α → Action σ β} {b : β}
    (h : (work >>= f).run.run s = (.ok b, s')) :
    ∃ a s₁, work.run.run s = (.ok a, s₁) ∧ (f a).run.run s₁ = (.ok b, s') := by
  rw [bind_run] at h
  cases hwork : (work.run.run s).1 with
  | ok a =>
    rw [hwork] at h
    exact ⟨a, _, Prod.ext hwork rfl, h⟩
  | error e =>
    rw [hwork] at h
    -- the outcome would be an error
    exact absurd (Prod.mk.inj h).1 nofun

/-- A step that can fail and does not act, before work that succeeds. -/
theorem lift_bind_run_eq_ok {x : Except QueryError α} {f : α → Action σ β} {b : β}
    (h : (liftM x >>= f : Action σ β).run.run s = (.ok b, s')) :
    ∃ a, x = .ok a ∧ (f a).run.run s = (.ok b, s') := by
  rw [lift_bind_run] at h
  cases x with
  | ok a => exact ⟨a, rfl, h⟩
  | error e => exact absurd (Prod.mk.inj h).1 nofun

/-- Work over a connection succeeds as the work does. -/
theorem withConnection_run_eq_ok {store : Store σ} {work : Action σ α} {a : α}
    (h : (store.withConnection work).run.run s = (.ok a, s')) :
    ∃ s₁ s₂, work.run.run s₁ = (.ok a, s₂) := by
  rw [Store.withConnection_run] at h
  cases hconnect : (store.connect.run.run s).1 with
  -- the work begins in the state that the connection leaves
  | ok =>
    rw [hconnect] at h
    exact ⟨_, _, Prod.ext (Prod.mk.inj h).1 rfl⟩
  | error e =>
    rw [hconnect] at h
    exact absurd (Prod.mk.inj h).1 nofun

/-! ### The kinds of tables -/

/-- **The kinds of tables**: those of a pipeline and a source, which are the datasets and the news,
the collections of a vector store, and the tables of a video site. -/
inductive Table.Kind : Table σ → Prop where
  /-- The table of a pipeline. -/
  | ofPipeline (p : Pipeline) (source : Source σ) : Kind (.ofPipeline p source)
  /-- The table of a collection. -/
  | collection (settings : Settings) (store : Store σ) (name : String) :
    Kind (Collection.table settings store name)
  /-- The table of comments. -/
  | comments (settings : Settings) (source : Source σ) : Kind (VideoSite.comments settings source)
  /-- A table about one thing, such as videos and channels. -/
  | single (p : Pipeline) (column : String) (shape : Json → Json) (source : Source σ) :
    Kind (VideoSite.singleTable p column shape source)

theorem Table.Kind.dataset {name : String} {given : Option Schema} {records : List Json}
    {t : Table σ} (h : Dataset.table name given records = .ok t) : t.Kind := by
  obtain ⟨schema, -, h⟩ := bind_eq_ok_iff.1 h
  obtain rfl := Except.ok.inj h
  exact .ofPipeline _ _

theorem Table.Kind.news (settings : Settings) (source : Source σ) :
    (News.table settings source).Kind := .ofPipeline _ _

theorem Table.Kind.videos (settings : Settings) (source : Source σ) :
    (VideoSite.videos settings source).Kind := .single _ _ _ _

theorem Table.Kind.channels (settings : Settings) (source : Source σ) :
    (VideoSite.channels settings source).Kind := .single _ _ _ _

/-- What comes of a plan is the plan finished on some payloads. -/
theorem runShaped_eq_ok {p : Pipeline} {plan : Plan} {source : Source σ}
    {shape : Json → Except QueryError Json} {answer : RowSet}
    (h : (p.runShaped plan source shape).run.run s = (.ok answer, s')) :
    ∃ payloads, p.finish plan payloads = .ok answer := by
  obtain ⟨records, s₁, -, h⟩ := bind_run_eq_ok h
  obtain ⟨payloads, -, h⟩ := lift_bind_run_eq_ok h
  exact ⟨payloads, (Prod.mk.inj h).1⟩

/-- **A table of any kind answers by a plan**, finished on some payloads. -/
theorem Table.Kind.select_planned {t : Table σ} (ht : t.Kind) {spec : Spec} {answer : RowSet}
    (h : (t.select spec).run.run s = (.ok answer, s')) :
    ∃ (p : Pipeline) (plan : Plan) (payloads : List Json), p.schema = t.schema ∧
      p.plan spec = .ok plan ∧ p.finish plan payloads = .ok answer := by
  cases ht with
  -- each of them plans first, and then shapes and finishes what it was sent
  | ofPipeline p source =>
    obtain ⟨plan, hplan, h⟩ := lift_bind_run_eq_ok h
    obtain ⟨payloads, hfinish⟩ := runShaped_eq_ok h
    exact ⟨p, plan, payloads, rfl, hplan, hfinish⟩
  | collection settings store name =>
    obtain ⟨plan, hplan, h⟩ := lift_bind_run_eq_ok h
    obtain ⟨s₁, s₂, hwork⟩ := withConnection_run_eq_ok h
    obtain ⟨payloads, hfinish⟩ := runShaped_eq_ok hwork
    exact ⟨Collection.pipeline settings name, plan, payloads, rfl, hplan, hfinish⟩
  | comments settings source =>
    obtain ⟨plan, hplan, h⟩ := lift_bind_run_eq_ok h
    -- the plan is checked too, and what passes is the plan
    obtain ⟨⟨⟩, -, hplan⟩ := bind_eq_ok_iff.1 hplan
    obtain ⟨payloads, hfinish⟩ := runShaped_eq_ok h
    exact ⟨VideoSite.commentPipeline settings, plan, payloads, rfl, hplan, hfinish⟩
  | single p column shape source =>
    obtain ⟨plan, hplan, h⟩ := lift_bind_run_eq_ok h
    obtain ⟨⟨⟩, -, hplan⟩ := bind_eq_ok_iff.1 hplan
    obtain ⟨payloads, hfinish⟩ := runShaped_eq_ok h
    exact ⟨p, plan, payloads, rfl, hplan, hfinish⟩

/-! ### Answers -/

theorem SelectStatement.nodup_answerColumns {selection : SelectStatement} {schema : Schema}
    (h : (schema.columns.map (·.name)).Nodup) : (selection.answerColumns schema).Nodup := by
  unfold answerColumns
  split
  case isTrue => exact Schema.nodup_outputColumns h
  case isFalse => exact nodup_firstOccurrences _

/-- Only a selection is answered by rows. -/
theorem Table.perform_eq_rows {t : Table σ} {handed : Handover} {answer : RowSet}
    (h : (t.perform handed).run.run s = (.ok (.rows answer), s')) :
    ∃ spec, handed = .select spec ∧ (t.select spec).run.run s = (.ok answer, s') := by
  cases handed with
  | select spec =>
    obtain ⟨answer', s₁, hselect, h⟩ := bind_run_eq_ok h
    obtain ⟨houtcome, rfl⟩ := Prod.mk.inj h
    obtain rfl := Outcome.rows.inj (Except.ok.inj houtcome)
    exact ⟨spec, rfl, hselect⟩
  | insert | update | delete =>
    -- the others are answered by a count
    obtain ⟨count, s₁, -, h⟩ := bind_run_eq_ok h
    exact absurd (Except.ok.inj (Prod.mk.inj h).1) nofun

/-- A table that is found is one of the registry. -/
theorem Registry.mem_of_find?_eq_some {r : Registry σ} {name : String} {t : Table σ}
    (h : r.find? name = some t) : ∃ entry ∈ r, entry.2 = t := by
  obtain ⟨entry, hentry, rfl⟩ := Option.map_eq_some_iff.1 h
  exact ⟨entry, List.mem_of_find?_eq_some hentry, rfl⟩

/-- **Every answer is a uniform table.** If a text is answered by rows, it is a selection from a
table of the registry. The columns are those that it asks for, and distinct: with a wildcard all
that the rows of the table carry, and else the names asked for, each where it is first written.
Every row has exactly these columns, in this order. -/
theorem Registry.execute_rows_uniform {r : Registry σ} {text : String} {answer : RowSet}
    (hkinds : ∀ e ∈ r, e.2.Kind)
    (hdistinct : ∀ e ∈ r, (e.2.schema.columns.map (·.name)).Nodup)
    (h : (r.execute text).run.run s = (.ok (.rows answer), s')) :
    ∃ selection t, Statement.read text = .ok (.select selection) ∧
      r.tableFor (.select selection) = .ok t ∧
      answer.columns = selection.answerColumns t.schema ∧
      answer.columns.Nodup ∧ answer.Uniform := by
  rw [execute_run] at h
  cases hhandover : r.handover text with
  | error e =>
    -- without a handover there is no answer
    rw [hhandover] at h
    exact absurd (Prod.mk.inj h).1 nofun
  | ok handed =>
    obtain ⟨t, handed⟩ := handed
    rw [hhandover] at h
    obtain ⟨spec, rfl, hselect⟩ := Table.perform_eq_rows h
    obtain ⟨statement, hread, hname, hstatement⟩ := handover_eq_ok_iff.1 hhandover
    -- a spec is handed over for a selection alone
    cases statement with
    | insert | update | delete =>
      obtain ⟨_, -, hstatement⟩ := map_eq_ok_iff.1 hstatement
      exact absurd hstatement nofun
    | select selection =>
      obtain ⟨spec', hspec, hstatement⟩ := map_eq_ok_iff.1 hstatement
      obtain rfl := Handover.select.inj hstatement
      have htable : r.tableFor (.select selection) = .ok t := tableFor_eq_ok_iff.2 hname
      obtain ⟨name, -, hfind⟩ := hname
      obtain ⟨entry, hentry, rfl⟩ := mem_of_find?_eq_some hfind
      obtain ⟨p, plan, payloads, hschema, hplan, hfinish⟩ :=
        (hkinds entry hentry).select_planned hselect
      -- the rows of the answer are finished by the plan, so they have its columns
      obtain ⟨rows, -, hcomplete⟩ := bind_eq_ok_iff.1 hfinish
      have hcolumns : plan.outputNames = selection.answerColumns entry.2.schema :=
        hschema ▸ outputNames_of_ofSelect (Statement.targets_ne_nil_of_read hread) hspec
          (Planned.of_plan hplan).output
      have hnodup : plan.outputNames.Nodup :=
        hcolumns ▸ SelectStatement.nodup_answerColumns (hdistinct entry hentry)
      obtain ⟨hanswer, huniform⟩ := Plan.complete_uniform hnodup hcomplete
      exact ⟨selection, entry.2, hread, htable, hanswer.trans hcolumns, hanswer ▸ hnodup, huniform⟩

/-! ### An instance -/

/-- A table of one tagged document. -/
def taggedDocs : Table Unit :=
  .ofPipeline (Dataset.pipeline ⟨"docs", [.output "id" .integer, .output "tag" .text]⟩)
    (.ofRecords [.object [("id", .ofInt 7), ("tag", "x")]])

/-- The identifier under the name of the tag, the identifier, and the tag, whose name is taken. -/
def retagged : Sql.Query :=
  .plain [.expr (.column [.bare "id"]) (some (.bare "tag")), .expr (.column [.bare "id"]) none,
    .expr (.column [.bare "tag"]) none] "docs" none

/-- Its answer. -/
def retaggedAnswer : RowSet := ⟨["tag", "id"], [[("tag", .ofInt 7), ("id", .ofInt 7)]]⟩

/-- The name that is asked for twice is one column. -/
theorem Registry.execute_rows_uniform_retagged :
    (Registry.execute [("docs", taggedDocs)] "SELECT id AS tag, id, tag FROM docs").run.run () =
      (.ok (.rows retaggedAnswer), ()) ∧
    ∃ selection t, Statement.read "SELECT id AS tag, id, tag FROM docs" = .ok (.select selection) ∧
      Registry.tableFor [("docs", taggedDocs)] (.select selection) = .ok t ∧
      retaggedAnswer.columns = selection.answerColumns t.schema ∧
      retaggedAnswer.columns.Nodup ∧ retaggedAnswer.Uniform := by
  have htokens : Sql.tokens "SELECT id AS tag, id, tag FROM docs".toList =
      .ok [.word (.bare "SELECT") "SELECT", .word (.bare "id") "ID", .word (.bare "AS") "AS",
        .word (.bare "tag") "TAG", .symbol ",", .word (.bare "id") "ID", .symbol ",",
        .word (.bare "tag") "TAG", .word (.bare "FROM") "FROM", .word (.bare "docs") "DOCS"] :=
    eq_ok_of_toOption (by decide +kernel)
  have hread : Sql.Statement.readAll "SELECT id AS tag, id, tag FROM docs" =
      .ok [.query retagged] :=
    Sql.Statement.readAll_of_tokens htokens (by with_unfolding_all rfl)
  have hstatement : Statement.read "SELECT id AS tag, id, tag FROM docs" =
      .ok (.select ⟨[.expr (.column "id") (some "tag"), .expr (.column "id") none,
        .expr (.column "tag") none], some ⟨"docs", none⟩, none, [], none, none⟩) :=
    (Statement.read_of_readAll hread).trans rfl
  have hfind : Registry.find? [("docs", taggedDocs)] "docs" = some taggedDocs :=
    Registry.find?_singleton (by decide +kernel) taggedDocs
  -- the name that is taken already is dropped when the spec is made
  have hhandover : Registry.handover [("docs", taggedDocs)]
      "SELECT id AS tag, id, tag FROM docs" = .ok (taggedDocs, .select
        ⟨some "docs", .columns [⟨"id", some "tag"⟩, ⟨"id", none⟩], [], [], none, none⟩) :=
    handover_eq_ok_iff.2 ⟨_, hstatement, ⟨"docs", rfl, hfind⟩, rfl⟩
  have hanswer : (Registry.execute [("docs", taggedDocs)]
      "SELECT id AS tag, id, tag FROM docs").run.run () =
        (.ok (.rows retaggedAnswer), ()) := by
    rw [execute_run, hhandover]
    rfl
  exact ⟨hanswer, Registry.execute_rows_uniform (r := [("docs", taggedDocs)])
    (List.forall_mem_singleton.2 (.ofPipeline _ _)) (List.forall_mem_singleton.2 (by decide))
    hanswer⟩

end Pushdown
