import Pushdown.Proofs.Plan.Budget
import Pushdown.Proofs.Registry.Handover
import Pushdown.Proofs.Rows.Filter
import Pushdown.Proofs.Rows.Unification
import Pushdown.Proofs.Statement.Acceptance
import Pushdown.Proofs.Tables.Inference
import Pushdown.Tables.Dataset

/-!
# Datasets under their own columns

A dataset without a schema of its own gets the columns that its records suggest, and then its
records are brought into shape under these. `Dataset.select_everything` says when that can be done:
exactly if the records are `Legible`. Then a selection of everything gives the records as a table,
with every value as it is and a null where a record has none. Otherwise every selection of
everything fails.

The two passes do not look at the same values. The type of a column is that of the deciding value,
the first under the key that is neither null nor a text; but all values under the key are checked
against it, and a scalar type refuses arrays and objects. So a container is **barred** if the value
that decided on its column is none (`Barred`). A column of texts is not in danger, since the first
container under it would decide.

All keys are declared, so no record is flattened (`flatten_infer`), and a key is found whole even if
it has points in it (`projectRow_map_mk`). That is why nothing but the barred cells can change or
lose a value.
-/

namespace Pushdown

variable {σ : Type} {records : List Record}

/-! ### Selections of everything -/

/-- A selection of everything: `SELECT *` from a table. -/
def SelectStatement.everything (source : Option TableRef) : SelectStatement :=
  ⟨[.wildcard], source, none, [], none, none⟩

/-- Its spec. -/
def Spec.everythingFrom (source : Option TableRef) : Spec :=
  { Spec.everything with table := source.map (·.name) }

namespace Dataset

/-- The plan for everything: nothing is left to do but to take the columns. -/
theorem plan_everything (schema : Schema) (source : Option TableRef) :
    ∃ plan, (pipeline schema).plan (.everythingFrom source) = .ok plan ∧
      plan.remote.maxRecords = none ∧ plan.residual = [] ∧ plan.localSort = [] ∧
      plan.localOffset = none ∧ plan.localLimit = none ∧
      plan.output = schema.outputColumns.map .plain :=
  ⟨_, rfl, rfl, rfl, rfl, rfl, rfl, rfl⟩

/-- What a plan makes of records that are all there, on one page. -/
theorem runShaped_ofRecords (p : Pipeline) (plan : Plan) (payloads : List Json) (s : σ) :
    (p.runShaped plan (.ofRecords payloads) .ok).run.run s =
      (p.finish plan (cutWindow none plan.remote.maxRecords payloads), s) := by
  -- the source has one page, and no token to go on with
  have hfetch : (fetchAll (Source.ofRecords payloads) plan.remote).run.run s =
      (.ok (cutWindow none plan.remote.maxRecords payloads), s) :=
    fetchAll_ofRecords payloads plan.remote s
  unfold Pipeline.runShaped
  rw [bind_run, hfetch]
  dsimp only
  rw [mapM_ok]
  rfl

/-- **The answer to a selection of everything**: the records brought into shape, and all columns of
them. -/
theorem execute_everything (schema : Schema) (records : List Record) (source : Option TableRef)
    (s : σ) :
    ((Table.ofPipeline (pipeline schema) (.ofRecords (records.map .object))).execute
      (.select (.everything source))).run.run s =
      (((records.mapM fun record =>
          Shape.project ⟨schema, none⟩ (Shape.flatten schema record)).map fun rows =>
        .rows ⟨schema.outputColumns,
          rows.map (projectRow (schema.outputColumns.map .plain))⟩), s) := by
  obtain ⟨plan, hplan, hmax, hresidual, hsort, hoffset, hlimit, houtput⟩ :=
    plan_everything schema source
  have hnames : plan.outputNames = schema.outputColumns := by
    unfold Plan.outputNames
    rw [houtput, outputNames_plain]
  -- no field is exploded, so every record makes one row
  have hunify : (pipeline schema).shape.unify (records.map .object) =
      records.mapM fun record => Shape.project ⟨schema, none⟩ (Shape.flatten schema record) :=
    Shape.unifyFrom_objects (s := ⟨schema, none⟩) rfl 0 records
  have hselect : ((pipeline schema).run (.ofRecords (records.map .object))
      (.everythingFrom source)).run.run s =
      ((pipeline schema).finish plan (records.map .object), s) := by
    unfold Pipeline.run
    rw [lift_bind_run, hplan]
    dsimp only
    rw [runShaped_ofRecords, hmax, cutWindow_none_none]
  -- no residual, sort or window is left, so the plan ends with its columns
  have hfinish : (pipeline schema).finish plan (records.map .object) =
      (records.mapM fun record =>
        Shape.project ⟨schema, none⟩ (Shape.flatten schema record)).map fun rows =>
          ⟨schema.outputColumns, rows.map (projectRow (schema.outputColumns.map .plain))⟩ := by
    unfold Pipeline.finish
    rw [hunify]
    cases records.mapM fun record =>
        Shape.project ⟨schema, none⟩ (Shape.flatten schema record) with
    | error e => rfl
    | ok rows =>
      change plan.complete schema rows = _
      rw [complete_of_nothing_left hresidual hsort, hnames, hoffset, hlimit, houtput,
        cutWindow_none_none]
      rfl
  change (((pipeline schema).run (.ofRecords (records.map .object)) (.everythingFrom source)) >>=
    fun answer => return Outcome.rows answer : Action σ Outcome).run.run s = _
  rw [bind_run, hselect, hfinish]
  cases records.mapM fun record =>
      Shape.project ⟨schema, none⟩ (Shape.flatten schema record) with
  | error e => rfl
  | ok rows => rfl

/-- Objects are records as they are. -/
theorem objectsFrom_objects (name : String) (index : Nat) (records : List Record) :
    objectsFrom name index (records.map .object) = .ok records := by
  induction records generalizing index with
  | nil => rfl
  | cons record records ih =>
    rw [List.map_cons, objectsFrom, ih]
    rfl

/-- The table of records without a schema of their own. -/
theorem table_objects (name : String) (records : List Record) :
    table name none (records.map .object) =
      .ok (.ofPipeline (pipeline (.infer name records)) (.ofRecords (records.map .object)) :
        Table σ) := by
  unfold table schemaFor
  rw [objectsFrom_objects]
  rfl

end Dataset

/-! ### Records under their own columns -/

/-- **Records as a table**: the columns are all keys, each where it first stands, and a row has the
values of its record, or nulls where the record has none. -/
def wholeTable (records : List Record) : RowSet where
  columns := firstOccurrences (Record.keys records.flatten)
  rows := records.map fun record =>
    (firstOccurrences (Record.keys records.flatten)).map fun key =>
      (key, (Record.get? record key).getD .null)

/-- **A container that its column cannot hold**, because the value that decided on the type of the
column is none. -/
structure Barred (records : List Record) (key : String) (value deciding : Json) : Prop where
  /-- The value stands under the key. -/
  entry : (key, value) ∈ records.flatten
  /-- It is an array or an object. -/
  container : value.isContainer = true
  /-- Another value decided on the type. -/
  decided : decidingValue? key records.flatten = some deciding
  /-- That one is neither. -/
  scalar : deciding.isContainer = false

/-- **Records that can be read under their own columns.** -/
def Legible (records : List Record) : Prop :=
  ∀ key value deciding, ¬ Barred records key value deciding

/-- A container decides on the type of its column, if nothing did before it. -/
theorem exists_decidingValue? {entries : List (String × Json)} {key : String} {value : Json}
    (hentry : (key, value) ∈ entries) (hcontainer : value.isContainer = true) :
    ∃ deciding, decidingValue? key entries = some deciding := by
  -- a container is neither null nor a text
  have hdecides : value.decidesType = true := by
    match value, hcontainer with
    | .array _, _ => rfl
    | .object _, _ => rfl
  cases hdeciding : decidingValue? key entries with
  | some deciding => exact ⟨deciding, rfl⟩
  | none =>
    rw [decidingValue?, Option.map_eq_none_iff, List.find?_eq_none] at hdeciding
    exact absurd (by simp [hdecides]) (hdeciding (key, value) hentry)

/-- **The columns of records refuse exactly the cells that are barred.** -/
theorem refusal?_infer_eq_some_iff {name key : String} {record : Record} {type : ColumnType}
    (hrecord : record ∈ records) (hkey : key ∈ Record.keys records.flatten) :
    Shape.refusal? (.infer name records) record key = some type ↔
      ∃ deciding, Barred records key (Shape.flatCell record key) deciding ∧
        type = .ofSample deciding := by
  unfold Shape.refusal?
  rw [Schema.column?_infer name hkey, Option.bind_some]
  have hsome {deciding : Json} (h : decidingValue? key records.flatten = some deciding) :
      sampledType key records.flatten = .ofSample deciding := by
    unfold sampledType
    rw [h]
    rfl
  constructor
  · intro h
    obtain ⟨hboth, htype⟩ := Option.ite_none_right_eq_some.1 h
    obtain rfl : sampledType key records.flatten = type := Option.some.inj htype
    obtain ⟨hscalar, hcontainer⟩ := Bool.and_eq_true_iff.1 hboth
    -- a container is no missing cell, so it stands in the record
    have hentry : (key, Shape.flatCell record key) ∈ record := by
      unfold Shape.flatCell at hcontainer ⊢
      cases hget : Record.get? record key with
      | none =>
        rw [hget] at hcontainer
        exact absurd hcontainer nofun
      | some value => exact Record.mem_of_get?_eq_some hget
    have hflatten := List.mem_flatten.2 ⟨record, hrecord, hentry⟩
    obtain ⟨deciding, hdeciding⟩ := exists_decidingValue? hflatten hcontainer
    refine ⟨deciding, ⟨hflatten, hcontainer, hdeciding, ?_⟩, hsome hdeciding⟩
    -- the column is of a scalar type, so the value that decided was a scalar
    have hscalar : (sampledType key records.flatten).isScalar = true := hscalar
    rw [hsome hdeciding, ColumnType.isScalar_ofSample] at hscalar
    simpa using hscalar
  · rintro ⟨deciding, hbarred, rfl⟩
    refine Option.ite_none_right_eq_some.2 ⟨?_, congrArg some (hsome hbarred.decided)⟩
    refine Bool.and_eq_true_iff.2 ⟨?_, hbarred.container⟩
    change (sampledType key records.flatten).isScalar = true
    rw [hsome hbarred.decided, ColumnType.isScalar_ofSample, hbarred.scalar]
    rfl

/-- A tabulated row is what taking all its columns makes of it. -/
theorem projectRow_map_mk {columns : List String} (h : columns.Nodup) (f : String → Json) :
    projectRow (columns.map .plain) (columns.map fun column => (column, f column)) =
      columns.map fun column => (column, f column) := by
  have hcells : (columns.map ProjectedColumn.plain).map (fun c => (c.outputName,
      (lookup (columns.map fun column => (column, f column)) c.path).getD .null)) =
      columns.map fun column => (column, f column) := by
    rw [List.map_map]
    refine List.map_congr_left fun column hcolumn => ?_
    -- the whole name is a key, so it is found before it could be taken for a path
    have hget := Record.get?_map_mk columns f column
    rw [if_pos hcolumn] at hget
    change (column, (lookup _ column).getD .null) = (column, f column)
    rw [lookup_of_get? hget]
    rfl
  unfold projectRow
  rw [hcells, Record.ofList_of_nodup (by rwa [Record.keys_map_mk])]

/-- The columns that records suggest are distinct, whatever their keys are. -/
theorem nodup_outputColumns_infer (name : String) :
    (Schema.infer name records).outputColumns.Nodup := by
  rw [Schema.outputColumns_infer]
  exact nodup_firstOccurrences _

section

variable {record : Record} (hrecord : record ∈ records) (hkeys : (Record.keys record).Nodup)
include hrecord hkeys

/-- **Legible records are brought into shape as they are.** -/
theorem project_infer_eq_ok (name : String) (hlegible : Legible records) :
    Shape.project ⟨.infer name records, none⟩ record =
      .ok ((firstOccurrences (Record.keys records.flatten)).map fun key =>
        (key, Shape.flatCell record key)) := by
  refine (Shape.project_eq_ok_iff (nodup_outputColumns_infer name) hkeys).2 ⟨fun key hkey => ?_, ?_⟩
  · -- a refusal would be a barred cell, and there is none
    rw [Schema.outputColumns_infer, mem_firstOccurrences] at hkey
    rw [Option.eq_none_iff_forall_ne_some]
    intro type htype
    obtain ⟨deciding, hbarred, -⟩ := (refusal?_infer_eq_some_iff hrecord hkey).1 htype
    exact hlegible _ _ _ hbarred
  · unfold Shape.rowOf
    rw [Schema.outputColumns_infer]

/-- **A record is refused for one of its barred cells.** -/
theorem project_infer_eq_error {name : String} {e : QueryError}
    (h : Shape.project ⟨.infer name records, none⟩ record = .error e) :
    ∃ key value deciding, Barred records key value deciding ∧
      e = .mismatch key (ColumnType.ofSample deciding).name value := by
  rcases Shape.project_cases (s := ⟨.infer name records, none⟩) (nodup_outputColumns_infer name)
    hkeys with ⟨-, hok⟩ | ⟨key, hkey, type, htype, herror⟩
  · exact absurd (hok.symm.trans h) nofun
  · obtain rfl := Except.error.inj (herror.symm.trans h)
    -- the refused key is a column, so some record has it
    rw [Schema.outputColumns_infer, mem_firstOccurrences] at hkey
    obtain ⟨deciding, hbarred, rfl⟩ := (refusal?_infer_eq_some_iff hrecord hkey).1 htype
    exact ⟨key, _, deciding, hbarred, rfl⟩

end

/-- A record with a barred cell is refused. -/
theorem Barred.project_ne_ok {key : String} {value deciding : Json}
    (h : Barred records key value deciding)
    (hkeys : ∀ record ∈ records, (Record.keys record).Nodup) (name : String) :
    ∃ record ∈ records, ∀ row, Shape.project ⟨.infer name records, none⟩ record ≠ .ok row := by
  obtain ⟨record, hrecord, hentry⟩ := List.mem_flatten.1 h.entry
  refine ⟨record, hrecord, fun row hrow => ?_⟩
  have hkey : key ∈ Record.keys records.flatten := List.mem_map_of_mem h.entry
  -- the value is found under its key, since the record has no second one
  have hcell : Shape.flatCell record key = value := by
    unfold Shape.flatCell
    rw [Record.get?_of_mem (hkeys record hrecord) hentry]
    rfl
  have hrefusal : Shape.refusal? (.infer name records) record key = some (.ofSample deciding) :=
    (refusal?_infer_eq_some_iff hrecord hkey).2 ⟨deciding, hcell.symm ▸ h, rfl⟩
  have haccepts := ((Shape.project_eq_ok_iff (nodup_outputColumns_infer name)
    (hkeys record hrecord)).1 hrow).1
  have hfit := haccepts key (by rwa [Schema.outputColumns_infer, mem_firstOccurrences])
  exact absurd (hrefusal.symm.trans hfit) nofun

/-- Records that suggest their columns are flat as they are. -/
theorem flatten_infer (name : String) {record : Record} (hrecord : record ∈ records)
    (hkeys : (Record.keys record).Nodup) : Shape.flatten (.infer name records) record = record := by
  refine Shape.flatten_of_declared hkeys fun key hkey => ?_
  obtain ⟨e, he, rfl⟩ := List.mem_map.1 hkey
  have hmem : e ∈ records.flatten := List.mem_flatten.2 ⟨record, hrecord, he⟩
  rw [Schema.column?_infer name (List.mem_map_of_mem hmem)]
  rfl

/-- **Legible records are all brought into shape**, each as its cells under all keys. -/
theorem mapM_project_infer (hkeys : ∀ record ∈ records, (Record.keys record).Nodup)
    (name : String) (hlegible : Legible records) :
    (records.mapM fun record => Shape.project ⟨.infer name records, none⟩
        (Shape.flatten (.infer name records) record)) =
      .ok (records.map fun record => (firstOccurrences (Record.keys records.flatten)).map
        fun key => (key, Shape.flatCell record key)) := by
  rw [mapM_eq_ok_iff, List.forall₂_map_right_iff, List.forall₂_same]
  intro record hrecord
  rw [flatten_infer name hrecord (hkeys record hrecord)]
  exact project_infer_eq_ok hrecord (hkeys record hrecord) name hlegible

/-- **A dataset is read under its own columns exactly if its records are legible.** Then everything
is the records as a table. Otherwise nothing can be selected: one of the barred cells is reported,
with the type that another value decided on. -/
theorem Dataset.select_everything (hkeys : ∀ record ∈ records, (Record.keys record).Nodup)
    (name : String) (source : Option TableRef) (s : σ) :
    ∃ t : Table σ, Dataset.table name none (records.map .object) = .ok t ∧
      (Legible records → (t.execute (.select (.everything source))).run.run s =
        (.ok (.rows (wholeTable records)), s)) ∧
      (¬ Legible records → ∃ key value deciding, Barred records key value deciding ∧
        (t.execute (.select (.everything source))).run.run s =
          (.error (.mismatch key (ColumnType.ofSample deciding).name value), s)) := by
  refine ⟨_, table_objects name records, fun hlegible => ?_, fun hnot => ?_⟩
  · rw [execute_everything, mapM_project_infer hkeys name hlegible, Schema.outputColumns_infer]
    -- the rows have all columns already, so to take the columns changes none of them
    have hrows : ((records.map fun record => (firstOccurrences (Record.keys records.flatten)).map
        fun key => (key, Shape.flatCell record key)).map
          (projectRow ((firstOccurrences (Record.keys records.flatten)).map .plain))) =
        (wholeTable records).rows := by
      rw [List.map_map]
      exact List.map_congr_left fun record _ => projectRow_map_mk (nodup_firstOccurrences _) _
    exact congrArg (fun rows => (Except.ok (Outcome.rows ⟨_, rows⟩), s)) hrows
  · let shaped (record : Record) : Except QueryError Record :=
      Shape.project ⟨.infer name records, none⟩ (Shape.flatten (.infer name records) record)
    -- nothing is flattened, so every record is shaped by its projection alone
    have hshaped (record : Record) (hrecord : record ∈ records) :
        shaped record = Shape.project ⟨.infer name records, none⟩ record :=
      congrArg (Shape.project _) (flatten_infer name hrecord (hkeys record hrecord))
    rcases mapM_cases shaped records with hall | ⟨record, hrecord, e, he, herror⟩
    · -- not all records are brought into shape if a cell of one of them is barred
      refine absurd (fun key value deciding hbarred => ?_) hnot
      obtain ⟨record, hrecord, hrefused⟩ := hbarred.project_ne_ok hkeys name
      obtain ⟨row, hrow⟩ := hall record hrecord
      exact hrefused row ((hshaped record hrecord).symm.trans hrow)
    · -- one record fails, and it fails for one of its barred cells
      rw [hshaped record hrecord] at he
      obtain ⟨key, value, deciding, hbarred, rfl⟩ :=
        project_infer_eq_error hrecord (hkeys record hrecord) he
      refine ⟨key, value, deciding, hbarred, ?_⟩
      rw [execute_everything, herror]
      rfl

/-! ### Instances -/

/-- A text before a list under one key, an object under another, and no key in every record. -/
def textThenList : List Record :=
  [[("a", .null), ("b", "x")], [("b", .array [.ofInt 1]), ("c", .object [("d", .ofInt 2)])]]

/-- A column of texts waits for its type, so a list behind a text is read. -/
theorem Dataset.select_everything_textThenList :
    (∀ record ∈ textThenList, (Record.keys record).Nodup) ∧ Legible textThenList ∧
    ∃ t : Table Unit, Dataset.table "t" none (textThenList.map .object) = .ok t ∧
      (t.execute (.select (.everything none))).run.run () =
        (.ok (.rows ⟨["a", "b", "c"],
          [[("a", .null), ("b", "x"), ("c", .null)],
            [("a", .null), ("b", .array [.ofInt 1]), ("c", .object [("d", .ofInt 2)])]]⟩), ()) := by
  have hkeys : ∀ record ∈ textThenList, (Record.keys record).Nodup := by decide
  have hlegible : Legible textThenList := by
    -- the list decides on its own column, and so does the object
    rintro key value deciding ⟨hentry, hcontainer, hdecided, hscalar⟩
    have hentries : (key, value) ∈ [("a", Json.null), ("b", "x"), ("b", .array [.ofInt 1]),
      ("c", .object [("d", .ofInt 2)])] := hentry
    simp only [List.mem_cons, Prod.mk.injEq, List.not_mem_nil, or_false] at hentries
    rcases hentries with ⟨rfl, rfl⟩ | ⟨rfl, rfl⟩ | ⟨rfl, rfl⟩ | ⟨rfl, rfl⟩
    · exact absurd hcontainer nofun
    · exact absurd hcontainer nofun
    · obtain rfl : Json.array [.ofInt 1] = deciding := Option.some.inj hdecided
      exact absurd hscalar nofun
    · obtain rfl : Json.object [("d", .ofInt 2)] = deciding := Option.some.inj hdecided
      exact absurd hscalar nofun
  obtain ⟨t, ht, hread, -⟩ := Dataset.select_everything hkeys "t" none ()
  exact ⟨hkeys, hlegible, t, ht, hread hlegible⟩

/-- A number before a list under one key. -/
def numberThenList : List Record := [[("a", .ofInt 1)], [("a", .array [.ofInt 2])]]

/-- **A list behind a number is not read**: the dataset becomes a table, and no row of it can be
selected. -/
theorem Dataset.numberThenList_not_selected :
    ∃ t : Table Unit, Dataset.table "t" none (numberThenList.map .object) = .ok t ∧
      (Registry.execute [("t", t)] "SELECT * FROM t").run.run () =
        (.error (.schemaMismatch "a" "integer" "array"), ()) := by
  have htokens : Sql.tokens "SELECT * FROM t".toList =
      .ok [.word (.bare "SELECT") "SELECT", .symbol "*", .word (.bare "FROM") "FROM",
        .word (.bare "t") "T"] :=
    eq_ok_of_toOption (by decide +kernel)
  have hread : Sql.Statement.readAll "SELECT * FROM t" =
      .ok [.query (.plain [.wildcard "*"] "t" none)] :=
    Sql.Statement.readAll_of_tokens htokens (by with_unfolding_all rfl)
  have hstatement : Statement.read "SELECT * FROM t" =
      .ok (.select (.everything (some ⟨"t", none⟩))) :=
    (Statement.read_of_readAll hread).trans rfl
  refine ⟨_, table_objects "t" numberThenList, ?_⟩
  have hfind := Registry.find?_singleton (by decide +kernel : Registry.keyOf "t" = "t")
    (.ofPipeline (pipeline (.infer "t" numberThenList))
      (.ofRecords (numberThenList.map .object)) : Table Unit)
  rw [Registry.execute_run, Registry.handover_eq_ok_iff.2 ⟨_, hstatement, ⟨"t", rfl, hfind⟩, rfl⟩]
  rfl

end Pushdown
