import Pushdown.Proofs.Json.Entries
import Pushdown.Proofs.Registry.Handover
import Pushdown.Proofs.Statement.Acceptance

/-!
# What an insertion hands over

An insertion of values hands one list of records to its table, one record for each row and in their
order. A record that `KeepsRow` has as many entries as the row has values, each under the column
that it is for. The main statement, `execute_insert_handsOver`, says when something is handed over
at all (the rows are `Insertable`) and when it keeps the rows: if the statement names its columns,
and no column twice.

The width of a row is compared with the number of columns only if there are columns, and the record
is made up from pairs of a column and a value. Without a list of columns there is no such pair, so
the record is empty and nothing is said about the values, which are not even looked at. With a
column named twice the width is right, but of the values under that column only the last is kept.
Both insertions succeed.
-/

namespace Pushdown

variable {σ : Type} {schema : Schema} {columns : List String} {rows : List (List Expression)}
  {row : List Expression} {record : Record}

/-! ### Specification -/

/-- **The columns that values are for**: those named, or else all columns of rows in their order. -/
def valueColumns (schema : Schema) (named : List String) : List String :=
  if named.isEmpty then schema.outputColumns else named

/-- **A record keeps a row**: it has one entry for each value, under the column of the same
place. -/
structure KeepsRow (targets : List String) (row : List Expression) (record : Record) : Prop where
  /-- As many entries as values. -/
  size : record.length = row.length
  /-- Every value is a literal and stands under its column. -/
  entry : ∀ (k : Nat) (e : Expression), row[k]? = some e →
    ∃ target v, targets[k]? = some target ∧ e = .literal v ∧ record.get? target = some v

/-- **Rows that an insertion hands over**: under columns that can be written, of their number, and
made up from literals. -/
structure Insertable (schema : Schema) (columns : List String) (rows : List (List Expression)) :
    Prop where
  writable : ∀ c ∈ columns, schema.isOutput c = true
  fit : FitColumns columns rows
  /-- Without columns no value is looked at. -/
  literals : columns ≠ [] → ∀ row ∈ rows, ∀ e ∈ row, ∃ v, e = .literal v

/-! ### Records -/

theorem entryFor_eq_ok_iff {pair : String × Expression} {entry : String × Json} :
    entryFor pair = .ok entry ↔ ∃ v, pair.2 = .literal v ∧ entry = (pair.1, v) := by
  obtain ⟨column, e⟩ := pair
  unfold entryFor literalFor
  cases e <;> simp [Except.map, eq_comm]

/-- The entries of a row that has one value for each column. -/
theorem entries_eq_ok_iff {entries : List (String × Json)} (hfit : row.length = columns.length) :
    (columns.zip row).mapM entryFor = .ok entries ↔
      ∃ values, row = values.map .literal ∧ entries = columns.zip values := by
  rw [mapM_eq_ok_iff]
  -- column by column, since a row has as many values
  induction columns generalizing row entries with
  | nil =>
    obtain rfl := List.length_eq_zero_iff.1 hfit
    simp
  | cons c columns ih =>
    match row, hfit with
    | e :: row, hfit =>
      rw [List.zip_cons_cons, List.forall₂_cons_left_iff]
      constructor
      · rintro ⟨entry, rest, hentry, hrest, rfl⟩
        obtain ⟨v, rfl, rfl⟩ := entryFor_eq_ok_iff.1 hentry
        obtain ⟨values, rfl, rfl⟩ := (ih (Nat.succ.inj hfit)).1 hrest
        exact ⟨v :: values, rfl, rfl⟩
      · rintro ⟨values, hvalues, rfl⟩
        obtain ⟨v, values, rfl, rfl, rfl⟩ := List.map_eq_cons_iff.1 hvalues.symm
        exact ⟨(c, v), columns.zip values, entryFor_eq_ok_iff.2 ⟨v, rfl, rfl⟩,
          (ih (Nat.succ.inj hfit)).2 ⟨values, rfl, rfl⟩, rfl⟩

/-- **The record of a row that has one value for each column.** -/
theorem insertRecord_eq_ok_iff (hfit : row.length = columns.length) :
    insertRecord columns row = .ok record ↔
      ∃ values, row = values.map .literal ∧ record = .ofList (columns.zip values) := by
  unfold insertRecord
  -- a record is its entries made up, and nothing else can fail
  rw [map_eq_ok_iff]
  simp only [entries_eq_ok_iff hfit]
  constructor
  · rintro ⟨_, ⟨values, hrow, rfl⟩, rfl⟩
    exact ⟨values, hrow, rfl⟩
  · rintro ⟨values, hrow, rfl⟩
    exact ⟨_, ⟨values, hrow, rfl⟩, rfl⟩

/-- Without columns there is nothing in the record. -/
theorem insertRecord_nil (row : List Expression) : insertRecord [] row = .ok [] := rfl

theorem keys_zip {values : List Json} (hlen : values.length = columns.length) :
    Record.keys (columns.zip values) = columns :=
  List.map_fst_zip (Nat.le_of_eq hlen.symm)

/-- Where the columns are distinct, the pairs of columns and values keep the row. -/
theorem keepsRow_zip {values : List Json} (hlen : values.length = columns.length)
    (hcolumns : columns.Nodup) :
    KeepsRow columns (values.map .literal) (columns.zip values) where
  size := by simp [hlen]
  entry := by
    intro k e he
    rw [List.getElem?_map, Option.map_eq_some_iff] at he
    obtain ⟨v, hv, rfl⟩ := he
    -- the value stands in a place that the columns have too
    have hk : k < columns.length := hlen ▸ (List.getElem?_eq_some_iff.1 hv).1
    have hmem : (columns[k], v) ∈ columns.zip values := by
      refine List.mem_iff_getElem?.2 ⟨k, ?_⟩
      rw [List.getElem?_zip_eq_some]
      exact ⟨List.getElem?_eq_getElem hk, hv⟩
    exact ⟨columns[k], v, List.getElem?_eq_getElem hk, rfl,
      Record.get?_of_mem ((keys_zip hlen).symm ▸ hcolumns) hmem⟩

/-- A record of nothing keeps only a row of nothing. -/
theorem keepsRow_nil_iff {targets : List String} : KeepsRow targets row [] ↔ row = [] := by
  constructor
  · intro hkeeps
    exact List.length_eq_zero_iff.1 hkeeps.size.symm
  · rintro rfl
    exact ⟨rfl, nofun⟩

/-- The record of columns and values keeps the values exactly if the columns are distinct. -/
theorem keepsRow_ofList_iff {values : List Json} (hlen : values.length = columns.length) :
    KeepsRow columns (values.map .literal) (.ofList (columns.zip values)) ↔ columns.Nodup := by
  have hkeys := keys_zip hlen
  constructor
  · -- a column named twice has one entry, and then there are fewer entries than values
    intro hkeeps
    have hsize : (Record.ofList (columns.zip values)).length = (columns.zip values).length := by
      rw [hkeeps.size, List.length_map, List.length_zip, hlen, Nat.min_self]
    rw [← hkeys]
    exact Record.length_ofList_eq_iff.1 hsize
  · intro hnodup
    rw [Record.ofList_of_nodup (hkeys.symm ▸ hnodup)]
    exact keepsRow_zip hlen hnodup

/-- **The record of a row keeps it exactly if the columns are named, each of them once**, or if
there is nothing to keep. -/
theorem keepsRow_iff (hfit : columns ≠ [] → row.length = columns.length)
    (h : insertRecord columns row = .ok record) :
    KeepsRow (valueColumns schema columns) row record ↔
      (row ≠ [] → columns ≠ [] ∧ columns.Nodup) := by
  by_cases hcolumns : columns = []
  · subst hcolumns
    -- without columns the record is empty, and keeps the row if that is empty as well
    obtain rfl : [] = record := Except.ok.inj h
    rw [keepsRow_nil_iff]
    exact ⟨fun hnil hne => absurd hnil hne, fun hrow => not_not.1 fun hne => (hrow hne).1 rfl⟩
  · have hlen := hfit hcolumns
    -- a row of the width of some columns is not empty
    have hrow : row ≠ [] := by
      rintro rfl
      exact hcolumns (List.length_eq_zero_iff.1 hlen.symm)
    have htargets : valueColumns schema columns = columns := if_neg (by simpa using hcolumns)
    obtain ⟨values, rfl, rfl⟩ := (insertRecord_eq_ok_iff hlen).1 h
    rw [List.length_map] at hlen
    rw [htargets, keepsRow_ofList_iff hlen, imp_iff_right hrow, and_iff_right hcolumns]

/-! ### Rows that are handed over -/

theorem requireWritable_eq_ok_iff {place : ColumnUse} {column : String} :
    requireWritable schema place column = .ok () ↔ schema.isOutput column = true := by
  unfold requireWritable
  split
  -- a column is written exactly if rows carry it
  case isTrue h => exact iff_of_true rfl h
  case isFalse h => exact iff_of_false nofun h

/-- **The records of an insertion**, one for each row. -/
theorem insertRecords_eq_ok_iff {i : InsertStatement} {records : List Record} :
    insertRecords schema i = .ok records ↔
      (∀ c ∈ i.columns, schema.isOutput c = true) ∧ List.Forall₂
        (fun row record => insertRecord i.columns row = .ok record) i.rows records := by
  unfold insertRecords
  rw [bind_eq_ok_iff, ← mapM_eq_ok_iff]
  constructor
  · rintro ⟨_, hcolumns, hrows⟩
    exact ⟨fun c hc => requireWritable_eq_ok_iff.1 (forM_eq_ok_iff.1 hcolumns c hc), hrows⟩
  · rintro ⟨hcolumns, hrows⟩
    exact ⟨(), forM_eq_ok_iff.2 fun c hc => requireWritable_eq_ok_iff.2 (hcolumns c hc), hrows⟩

theorem entryFor_isOk_iff {pair : String × Expression} :
    IsOk (entryFor pair) ↔ ∃ v, pair.2 = .literal v :=
  ⟨fun ⟨_, h⟩ => (entryFor_eq_ok_iff.1 h).imp fun _ hv => hv.1,
    fun ⟨v, hv⟩ => ⟨_, entryFor_eq_ok_iff.2 ⟨v, hv, rfl⟩⟩⟩

theorem insertRecord_isOk_iff (hfit : columns ≠ [] → row.length = columns.length) :
    IsOk (insertRecord columns row) ↔ (columns ≠ [] → ∀ e ∈ row, ∃ v, e = .literal v) := by
  by_cases hcolumns : columns = []
  · subst hcolumns
    exact iff_of_true ⟨[], insertRecord_nil row⟩ fun hne => absurd rfl hne
  · -- every value is in one pair
    have hrow : (columns.zip row).map Prod.snd = row :=
      List.map_snd_zip (Nat.le_of_eq (hfit hcolumns))
    unfold insertRecord
    rw [imp_iff_right hcolumns, isOk_map_iff, isOk_mapM_iff]
    simp only [entryFor_isOk_iff]
    have hpairs := List.forall_mem_map (f := Prod.snd) (l := columns.zip row)
      (P := fun e : Expression => ∃ v, e = .literal v)
    rw [hrow] at hpairs
    exact hpairs.symm

/-- **Which rows are handed over.** -/
theorem insertRecords_isOk_iff (table : TableRef) (hfit : FitColumns columns rows) :
    IsOk (insertRecords schema ⟨table, columns, rows⟩) ↔ Insertable schema columns rows := by
  -- each row decides for itself
  have hrows : IsOk (rows.mapM (insertRecord columns)) ↔
      (columns ≠ [] → ∀ row ∈ rows, ∀ e ∈ row, ∃ v, e = .literal v) := by
    rw [isOk_mapM_iff]
    constructor
    · intro h hne row hrow
      exact (insertRecord_isOk_iff fun hne => hfit hne row hrow).1 (h row hrow) hne
    · intro h row hrow
      exact (insertRecord_isOk_iff fun hne => hfit hne row hrow).2 fun hne => h hne row hrow
  have hcolumns : IsOk (columns.forM (requireWritable schema .insert)) ↔
      ∀ c ∈ columns, schema.isOutput c = true := by
    refine Iff.trans ⟨fun ⟨_, h⟩ => h, fun h => ⟨(), h⟩⟩ (forM_eq_ok_iff.trans ?_)
    exact forall₂_congr fun _ _ => requireWritable_eq_ok_iff
  unfold insertRecords
  rw [isOk_bind_iff fun _ => hrows, hcolumns]
  exact ⟨fun h => ⟨h.1, hfit, h.2⟩, fun h => ⟨h.writable, h.literals⟩⟩

/-! ### Handovers -/

/-- A text that holds an insertion is read as one of its rows, if these fit its columns. -/
theorem read_insert_eq_ok_iff {text : String} {tree : Sql.Insert} {statement : Statement}
    (hread : Sql.Statement.readAll text = .ok [.insert tree]) :
    Statement.read text = .ok statement ↔
      ∃ rows, tree.valueRows? = some rows ∧ FitColumns tree.columnNames rows ∧
        statement = .insert ⟨⟨lastName tree.table, none⟩, tree.columnNames, rows⟩ := by
  rw [Statement.read_of_readAll hread]
  refine map_eq_ok_iff.trans ?_
  simp only [InsertStatement.ofSql_eq_ok_iff]
  constructor
  · rintro ⟨_, ⟨rows, hrows, hfit, rfl⟩, rfl⟩
    exact ⟨rows, hrows, hfit, rfl⟩
  · rintro ⟨rows, hrows, hfit, rfl⟩
    exact ⟨_, ⟨rows, hrows, hfit, rfl⟩, rfl⟩

/-- **What an insertion hands over**: the records of its rows to the table of its name. -/
theorem Registry.handover_insert_eq_ok_iff {r : Registry σ} {text : String} {tree : Sql.Insert}
    (hread : Sql.Statement.readAll text = .ok [.insert tree]) {t : Table σ} {h : Handover} :
    r.handover text = .ok (t, h) ↔ r.find? (lastName tree.table) = some t ∧
      ∃ rows records, tree.valueRows? = some rows ∧ FitColumns tree.columnNames rows ∧
        insertRecords t.schema ⟨⟨lastName tree.table, none⟩, tree.columnNames, rows⟩ =
          .ok records ∧ h = .insert records := by
  rw [handover_eq_ok_iff]
  constructor
  · rintro ⟨_, hstatement, ⟨_, hname, ht⟩, hh⟩
    -- the handover gives back what was read, and its parts in turn
    obtain ⟨rows, hrows, hfit, rfl⟩ := (read_insert_eq_ok_iff hread).1 hstatement
    obtain ⟨records, hrecords, rfl⟩ := map_eq_ok_iff.1 hh
    obtain rfl := Option.some.inj hname
    exact ⟨ht, rows, records, hrows, hfit, hrecords, rfl⟩
  · rintro ⟨ht, rows, records, hrows, hfit, hrecords, rfl⟩
    exact ⟨_, (read_insert_eq_ok_iff hread).2 ⟨rows, hrows, hfit, rfl⟩, ⟨_, rfl, ht⟩,
      map_eq_ok_iff.2 ⟨records, hrecords, rfl⟩⟩

/-- **An insertion hands over records that keep its rows, if it names its columns and none of them
twice.** Writing down what the tables are handed changes neither outcome nor state. If there is a
table and the rows are insertable, the table is handed one list of records, one for each row and in
their order; a record keeps its row exactly if the row is empty or the columns are named and
distinct. Otherwise the statement fails, and no table is handed anything. -/
theorem Registry.execute_insert_handsOver (r : Registry σ) {text : String} {tree : Sql.Insert}
    (hread : Sql.Statement.readAll text = .ok [.insert tree]) (s : σ) (log : HandoverLog) :
    let after := (r.recording.execute text).run.run (s, log)
    (after.1, after.2.1) = (r.execute text).run.run s ∧
    (∀ t rows, r.find? (lastName tree.table) = some t → tree.valueRows? = some rows →
      Insertable t.schema tree.columnNames rows →
      ∃ records, after.2.2 = log ++ [(t.name, .insert records)] ∧
        List.Forall₂ (fun row record =>
          KeepsRow (valueColumns t.schema tree.columnNames) row record ↔
            (row ≠ [] → tree.columnNames ≠ [] ∧ tree.columnNames.Nodup)) rows records) ∧
    ((¬ ∃ t rows, r.find? (lastName tree.table) = some t ∧ tree.valueRows? = some rows ∧
      Insertable t.schema tree.columnNames rows) → ∃ e, after = (.error e, s, log)) := by
  dsimp only
  rw [execute_recording]
  refine ⟨rfl, fun t rows ht hrows hinsertable => ?_, fun hnone => ?_⟩
  · -- insertable rows have records, and with these there is a handover
    obtain ⟨records, hrecords⟩ := (insertRecords_isOk_iff _ hinsertable.fit).2 hinsertable
    have hhandover : r.handover text = .ok (t, .insert records) :=
      (handover_insert_eq_ok_iff hread).2
        ⟨ht, rows, records, hrows, hinsertable.fit, hrecords, rfl⟩
    have hfit (row : List Expression) (hrow : row ∈ rows) (hne : tree.columnNames ≠ []) :
        row.length = tree.columnNames.length := hinsertable.fit hne row hrow
    refine ⟨records, by rw [hhandover], ?_⟩
    -- the records are those of the rows, one by one, and each row has the width of the columns
    exact ((List.forall₂_and_left _ _).2 ⟨hfit, (insertRecords_eq_ok_iff.1 hrecords).2⟩).imp
      fun row record h => keepsRow_iff h.1 h.2
  · rw [execute_run]
    cases hhandover : r.handover text with
    | error e => exact ⟨e, rfl⟩
    | ok handed =>
      -- what is handed over is made up from insertable rows, of which there are none
      obtain ⟨ht, rows, records, hrows, hfit, hrecords, -⟩ :=
        (handover_insert_eq_ok_iff hread).1 hhandover
      have hinsertable := (insertRecords_isOk_iff _ hfit).1 ⟨records, hrecords⟩
      exact absurd ⟨_, rows, ht, hrows, hinsertable⟩ hnone

/-! ### Instances -/

/-- A table of notes, which takes every record. -/
def notes : Table Unit where
  schema := ⟨"docs", [.output "id" .text, .output "content" .text]⟩
  capabilities := .nothing
  select _ := return ⟨[], []⟩
  insert records := return records.length
  update _ _ := throw (Table.refuseUpdate "docs")
  delete _ := throw (Table.refuseDelete "docs")

/-- An insertion of one note under these columns. -/
def noteInsertion (columns : List Sql.Name) : Sql.Insert where
  table := [.bare "docs"]
  columns := columns
  source := some ⟨none, .values [[.quoted "a", .quoted "x"]] false, [], none, none, none, [], none,
    none, [], none, none⟩

theorem find?_notes : Registry.find? [("docs", notes)] "docs" = some notes := by
  have hkey : Registry.keyOf "docs" = "docs" := by decide +kernel
  unfold Registry.find?
  rw [hkey]
  rfl

/-- With a list of columns the note is kept. -/
theorem execute_insert_handsOver_note : ∃ records,
    ((Registry.recording [("docs", notes)]).execute
      "INSERT INTO docs (id, content) VALUES ('a', 'x')" |>.run.run ((), [])).2.2 =
        [("docs", .insert records)] ∧
    List.Forall₂ (KeepsRow ["id", "content"]) [[.literal "a", .literal "x"]] records := by
  have htokens : Sql.tokens "INSERT INTO docs (id, content) VALUES ('a', 'x')".toList =
      .ok [.word (.bare "INSERT") "INSERT", .word (.bare "INTO") "INTO",
        .word (.bare "docs") "DOCS", .symbol "(", .word (.bare "id") "ID", .symbol ",",
        .word (.bare "content") "CONTENT", .symbol ")", .word (.bare "VALUES") "VALUES",
        .symbol "(", .quoted "a", .symbol ",", .quoted "x", .symbol ")"] :=
    eq_ok_of_toOption (by decide +kernel)
  have hread : Sql.Statement.readAll "INSERT INTO docs (id, content) VALUES ('a', 'x')" =
      .ok [.insert (noteInsertion [.bare "id", .bare "content"])] :=
    Sql.Statement.readAll_of_tokens htokens rfl
  have hinsertable : Insertable notes.schema ["id", "content"]
      [[.literal "a", .literal "x"]] := ⟨by decide, by simp [FitColumns], by simp⟩
  obtain ⟨records, hlog, hkeeps⟩ :=
    (Registry.execute_insert_handsOver [("docs", notes)] hread () []).2.1 notes _ find?_notes rfl
      hinsertable
  exact ⟨records, hlog, hkeeps.imp fun row record h => h.2 fun _ => by decide⟩

/-- **Without a list of columns nothing of the note is kept**, and the insertion succeeds. -/
theorem Registry.insert_without_columns_loses_values :
    Sql.Statement.readAll "INSERT INTO docs VALUES ('a', 'x')" =
      .ok [.insert (noteInsertion [])] ∧
    (noteInsertion []).valueRows? = some [[.literal "a", .literal "x"]] ∧
    ((Registry.recording [("docs", notes)]).execute "INSERT INTO docs VALUES ('a', 'x')"
      |>.run.run ((), [])) = (.ok (.affected 1), (), [("docs", .insert [[]])]) ∧
    ∀ targets, ¬ KeepsRow targets [.literal "a", .literal "x"] [] := by
  have htokens : Sql.tokens "INSERT INTO docs VALUES ('a', 'x')".toList =
      .ok [.word (.bare "INSERT") "INSERT", .word (.bare "INTO") "INTO",
        .word (.bare "docs") "DOCS", .word (.bare "VALUES") "VALUES",
        .symbol "(", .quoted "a", .symbol ",", .quoted "x", .symbol ")"] :=
    eq_ok_of_toOption (by decide +kernel)
  have hread : Sql.Statement.readAll "INSERT INTO docs VALUES ('a', 'x')" =
      .ok [.insert (noteInsertion [])] :=
    Sql.Statement.readAll_of_tokens htokens rfl
  have hhandover : Registry.handover [("docs", notes)] "INSERT INTO docs VALUES ('a', 'x')" =
      .ok (notes, .insert [[]]) :=
    (handover_insert_eq_ok_iff hread).2 ⟨find?_notes, _, _, rfl, nofun, rfl, rfl⟩
  -- the row has two values, and its record has no entry
  refine ⟨hread, rfl, ?_, fun targets hkeeps => absurd hkeeps.size (by decide)⟩
  rw [execute_recording, execute_run, hhandover]
  rfl

end Pushdown
