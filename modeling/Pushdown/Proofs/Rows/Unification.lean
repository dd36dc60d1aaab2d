import Pushdown.Proofs.Json.Entries
import Pushdown.Proofs.Outcome
import Pushdown.Rows.Unification

/-!
# Rows of the first payloads

Payloads are brought into shape one after another, and each becomes rows of its own: one, or one per
element of an exploded field, but never none. So whoever holds the first `n` payloads holds at least
the first `n` rows, or all of them. `Shape.unify_take` says so, and that nothing fails for the first
payloads that does not fail for all.

The position of a payload counts in messages alone. `Shape.unifyFrom_eq_ok_iff` leaves it out:
payloads are brought into shape exactly if each of them is, and their rows are then put together.
The declared columns are moved from a flat record to its row one by one, so a column that is
declared twice finds its cell gone; where columns are distinct, `ToMove` is what holds before each
of them, and whether there is a row depends on the cells alone: none may be refused by the type of
its column (`Shape.project_eq_ok_iff`). Whatever the payloads are, their rows are then complete:
they have the declared columns and no others, and no cell that is refused
(`Shape.complete_of_mem_unify`).

A record is flattened before its columns are taken, and the element of an exploded field is put into
the flat record: these are the `Shape.flats` of a record, and each of them becomes one row
(`Shape.rowsOf_eq_ok_iff`). What is not of the expected kind is all that shaping can fail with
(`Shape.unifyFrom_mismatch`).
-/

namespace Pushdown

/-! ### Lists of lists -/

section Flatten

variable {α : Type}

theorem length_le_length_flatten {lists : List (List α)} (h : ∀ l ∈ lists, l ≠ []) :
    lists.length ≤ lists.flatten.length := by
  induction lists with
  | nil => exact Nat.le_refl 0
  | cons l lists ih =>
    obtain ⟨hl, hlists⟩ := List.forall_mem_cons.1 h
    -- each list has an item at least
    have hpos : 0 < l.length := List.length_pos_iff.2 hl
    have hrest := ih hlists
    rw [List.flatten_cons, List.length_append, List.length_cons]
    omega

/-- The first `n` of several lists begin like all of them, as far as `n` items. -/
theorem take_flatten_take {lists : List (List α)} (h : ∀ l ∈ lists, l ≠ []) (n : Nat) :
    (lists.take n).flatten.take n = lists.flatten.take n := by
  rcases Nat.le_total lists.length n with hall | hsome
  · rw [List.take_of_length_le hall]
  · -- the first `n` lists have `n` items already
    have hlen : n ≤ (lists.take n).flatten.length := by
      have hle : (lists.take n).length ≤ (lists.take n).flatten.length :=
        length_le_length_flatten fun l hl => h l (List.mem_of_mem_take hl)
      rwa [List.length_take, Nat.min_eq_left hsome] at hle
    conv_rhs => rw [← List.take_append_drop n lists, List.flatten_append]
    rw [List.take_append_of_le_length hlen]

end Flatten

namespace Schema

variable {schema : Schema} {name : String}

/-- A column of rows is found under its name, if perhaps another one of this name. -/
theorem column?_ne_none (h : name ∈ schema.outputColumns) : schema.column? name ≠ none := by
  obtain ⟨c, hc, rfl⟩ := List.mem_map.1 h
  -- the column itself has the name, so looking for the name does not fail
  intro hnone
  have hnot := List.find?_eq_none.1 hnone c (List.mem_of_mem_filter hc)
  exact hnot (beq_self_eq_true c.name)

/-- The columns that rows carry are distinct if all declared columns are. -/
theorem nodup_outputColumns (h : (schema.columns.map (·.name)).Nodup) :
    schema.outputColumns.Nodup :=
  h.sublist (List.filter_sublist.map _)

end Schema

/-- **A value is not of the kind that its place asks for.** -/
def QueryError.IsMismatch (e : QueryError) : Prop :=
  ∃ field expected found, e = .schemaMismatch field expected found

namespace Shape

variable {s : Shape} {payloads : List Json} {rows : List Record} {row : Record}

/-! ### Declared columns -/

/-- The cell of a flat record under a column. -/
def flatCell (flat : Record) (name : String) : Json := (Record.get? flat name).getD .null

/-- **The type that refuses a cell**: that of its column, if it is scalar and the cell a
container. -/
def refusal? (schema : Schema) (flat : Record) (name : String) : Option ColumnType :=
  (schema.column? name).bind fun c =>
    if c.type.isScalar && (flatCell flat name).isContainer then some c.type else none

/-- **One column**: its cell is refused, or it is moved behind those that the row has. -/
theorem projectColumns_cons (schema : Schema) (name : String) (names : List String)
    (flat row : Record) : projectColumns schema (name :: names) flat row =
      match refusal? schema flat name with
      | some type => .error (.mismatch name type.name (flatCell flat name))
      | none => projectColumns schema names (Record.swapRemove flat name)
          (Record.insert row name (flatCell flat name)) := by
  rw [projectColumns, refusal?]
  cases schema.column? name with
  | none => rfl
  | some c =>
    dsimp only [Option.bind_some]
    unfold flatCell
    by_cases h : (c.type.isScalar && ((Record.get? flat name).getD .null).isContainer) = true
    · rw [if_pos h, if_pos h]
      rfl
    · rw [if_neg h, if_neg h]

/-- A column that is declared twice has one cell, and nothing is left to stand there. -/
example : project ⟨⟨"t", [.output "id" .integer, .output "id" .integer]⟩, none⟩
    [("id", .ofInt 7)] = .ok [("id", .null)] := rfl

/-- **Columns that are still to be moved** to a row: none of them is there, and none comes twice. -/
structure ToMove (names : List String) (flat row : Record) : Prop where
  /-- The columns are distinct. -/
  distinct : names.Nodup
  /-- The flat record has distinct keys. -/
  flat : (Record.keys flat).Nodup
  /-- The row has none of the columns. -/
  new : ∀ name ∈ names, name ∉ Record.keys row

/-- One column less, which leaves the cells of the others as they were. -/
theorem ToMove.next {names : List String} {name : String} {flat row : Record}
    (h : ToMove (name :: names) flat row) (cell : Json) :
    ToMove names (Record.swapRemove flat name) (row ++ [(name, cell)]) ∧
      ∀ name' ∈ names, flatCell (Record.swapRemove flat name) name' = flatCell flat name' := by
  obtain ⟨hname, hnames⟩ := List.nodup_cons.1 h.distinct
  obtain ⟨hflat, hget⟩ := Record.get?_swapRemove h.flat name
  refine ⟨⟨hnames, hflat, fun name' hname' => ?_⟩, fun name' hname' => ?_⟩
  · -- the row gets the column, which is none of the others
    rw [Record.keys_append, List.mem_append, not_or]
    refine ⟨h.new name' (List.mem_cons_of_mem _ hname'), fun hmem => hname ?_⟩
    obtain rfl : name' = name := List.mem_singleton.1 hmem
    exact hname'
  · -- the flat record loses the column, and keeps the cells of the others
    have hne : name ≠ name' := fun heq => hname (heq ▸ hname')
    unfold flatCell
    rw [hget, if_neg hne]

/-- **Columns are moved in their order, or one of their cells is refused.** -/
theorem projectColumns_cases (schema : Schema) {names : List String} {flat row : Record}
    (h : ToMove names flat row) :
    ((∀ name ∈ names, refusal? schema flat name = none) ∧
      projectColumns schema names flat row =
        .ok (row ++ names.map fun name => (name, flatCell flat name))) ∨
      ∃ name ∈ names, ∃ type, refusal? schema flat name = some type ∧
        projectColumns schema names flat row =
          .error (.mismatch name type.name (flatCell flat name)) := by
  induction names generalizing flat row with
  | nil => exact .inl ⟨List.forall_mem_nil _, congrArg Except.ok (List.append_nil row).symm⟩
  | cons name names ih =>
    rw [projectColumns_cons]
    -- the first cell is refused, or it is moved and the others are looked at
    cases hname : refusal? schema flat name with
    | some type => exact .inr ⟨name, List.mem_cons_self, type, hname, rfl⟩
    | none =>
      dsimp only
      rw [Record.insert_of_notMem (h.new name List.mem_cons_self)]
      obtain ⟨hnext, hcells⟩ := h.next (flatCell flat name)
      -- what is left of the flat record refuses the same cells as before
      have hrefusal : ∀ name' ∈ names,
          refusal? schema (Record.swapRemove flat name) name' = refusal? schema flat name' := by
        intro name' hname'
        unfold refusal?
        rw [hcells name' hname']
      rcases ih hnext with ⟨hall, hok⟩ | ⟨name', hmem, type, htype, herror⟩
      · refine .inl ⟨List.forall_mem_cons.2 ⟨hname, fun name' hname' => ?_⟩, ?_⟩
        · exact hrefusal name' hname' ▸ hall name' hname'
        · rw [hok, List.append_assoc, List.map_cons, List.singleton_append,
            List.map_congr_left fun name' hname' => congrArg (name', ·) (hcells name' hname')]
      · rw [hcells name' hmem] at herror
        exact .inr ⟨name', List.mem_cons_of_mem _ hmem, type, hrefusal name' hmem ▸ htype, herror⟩

/-! ### Rows of a flat record -/

/-- The declared columns of a flat record. -/
def rowOf (s : Shape) (flat : Record) : Record :=
  s.schema.outputColumns.map fun name => (name, flatCell flat name)

/-- **No cell is refused** by the type of its column. -/
def Accepts (s : Shape) (flat : Record) : Prop :=
  ∀ name ∈ s.schema.outputColumns, refusal? s.schema flat name = none

theorem keys_rowOf (flat : Record) : Record.keys (s.rowOf flat) = s.schema.outputColumns :=
  Record.keys_map_mk _ _

section

variable (hdistinct : s.schema.outputColumns.Nodup) {flat : Record}
  (hflat : (Record.keys flat).Nodup)
include hdistinct hflat

/-- **A flat record becomes its row, or one of its cells is refused**, where columns are
distinct. -/
theorem project_cases :
    (s.Accepts flat ∧ s.project flat = .ok (s.rowOf flat)) ∨
      ∃ name ∈ s.schema.outputColumns, ∃ type, refusal? s.schema flat name = some type ∧
        s.project flat = .error (.mismatch name type.name (flatCell flat name)) := by
  have hmove : ToMove s.schema.outputColumns flat [] := ⟨hdistinct, hflat, fun _ _ => nofun⟩
  exact projectColumns_cases s.schema hmove

theorem project_eq_ok_iff : s.project flat = .ok row ↔ s.Accepts flat ∧ row = s.rowOf flat := by
  -- a row and a failure exclude each other
  rcases project_cases hdistinct hflat with ⟨hall, hok⟩ | ⟨name, hname, type, htype, herror⟩
  · rw [hok, Except.ok.injEq, and_iff_right hall, eq_comm]
  · rw [herror]
    refine iff_of_false nofun fun ⟨hall, _⟩ => ?_
    exact absurd (htype.symm.trans (hall name hname)) nofun

end

/-! ### One payload -/

/-- **The flat records of a record**, before their columns are taken: one, or one per element. -/
def flats (s : Shape) (record : Record) : Except QueryError (List Record) :=
  match s.explode with
  | none => .ok [flatten s.schema record]
  | some field =>
    (elements field (Record.get? record field)).map fun items =>
      let rest := flatten s.schema (Record.swapRemove record field)
      if items.isEmpty then [rest] else items.map (withElement field rest)

theorem ne_nil_of_flats {record : Record} {flats : List Record}
    (h : s.flats record = .ok flats) : flats ≠ [] := by
  unfold Shape.flats at h
  cases hexplode : s.explode with
  | none =>
    rw [hexplode] at h
    exact Except.ok.inj h ▸ List.cons_ne_nil _ _
  | some field =>
    rw [hexplode] at h
    obtain ⟨items, -, rfl⟩ := map_eq_ok_iff.1 h
    dsimp only
    -- one row for each element, and one if there are none
    split
    case isTrue => exact List.cons_ne_nil _ _
    case isFalse hsome => exact fun hnil => hsome (List.isEmpty_iff.2 (List.map_eq_nil_iff.1 hnil))

/-- A flat record has distinct keys, whatever those of the record are. -/
theorem nodup_keys_of_flats {record flat : Record} {flats : List Record}
    (h : s.flats record = .ok flats) (hflat : flat ∈ flats) : (Record.keys flat).Nodup := by
  -- flattening makes up a record, and an element is inserted into it
  have hflatten (record : Record) : (Record.keys (flatten s.schema record)).Nodup :=
    Record.nodup_keys_ofList _
  unfold Shape.flats at h
  cases hexplode : s.explode with
  | none =>
    rw [hexplode] at h
    obtain rfl := Except.ok.inj h
    obtain rfl := List.mem_singleton.1 hflat
    exact hflatten record
  | some field =>
    rw [hexplode] at h
    obtain ⟨items, -, rfl⟩ := map_eq_ok_iff.1 h
    dsimp only at hflat
    split at hflat
    case isTrue =>
      obtain rfl := List.mem_singleton.1 hflat
      exact hflatten _
    case isFalse =>
      obtain ⟨item, -, rfl⟩ := List.mem_map.1 hflat
      exact Record.nodup_keys_insertAll (hflatten _) _

/-- The rows of a record are those of its flat records. -/
theorem rowsOf_eq (s : Shape) (record : Record) :
    s.rowsOf record = s.flats record >>= fun flats => flats.mapM s.project := by
  have hsingle (flat : Record) :
      (s.project flat >>= fun row => pure [row]) = [flat].mapM s.project := by
    rw [List.mapM_cons]
    rfl
  unfold rowsOf flats
  cases s.explode with
  | none => exact hsingle _
  | some field =>
    dsimp only
    cases elements field (Record.get? record field) with
    | error e => rfl
    | ok items =>
      -- an empty list stands for one element that has nothing
      cases items with
      | nil => exact hsingle _
      | cons item items =>
        show _ = ((item :: items).map _).mapM s.project
        rw [List.mapM_map]
        rfl

/-- **A record becomes rows exactly if no cell of its flat records is refused**, where columns are
distinct. -/
theorem rowsOf_eq_ok_iff (hdistinct : s.schema.outputColumns.Nodup) {record : Record} :
    s.rowsOf record = .ok rows ↔
      ∃ flats, s.flats record = .ok flats ∧ (∀ flat ∈ flats, s.Accepts flat) ∧
        rows = flats.map s.rowOf := by
  rw [rowsOf_eq, bind_eq_ok_iff]
  refine exists_congr fun flats => and_congr_right fun hflats => ?_
  -- flat records have distinct keys, so each is projected as `project_eq_ok_iff` says
  rw [mapM_eq_ok_iff, forall₂_eq_ok_iff fun flat hflat row => ?_]
  exact project_eq_ok_iff hdistinct (nodup_keys_of_flats hflats hflat)

/-- **A record becomes at least one row.** -/
theorem ne_nil_of_rowsOf {record : Record} (h : s.rowsOf record = .ok rows) : rows ≠ [] := by
  rw [rowsOf_eq, bind_eq_ok_iff] at h
  obtain ⟨flats, hflats, hrows⟩ := h
  have hlen : flats.length = rows.length := (mapM_eq_ok_iff.1 hrows).length_eq
  exact List.length_pos_iff.1 (hlen ▸ List.length_pos_iff.2 (ne_nil_of_flats hflats))

/-- These are the rows of a payload. -/
def RowsOf (s : Shape) (payload : Json) (rows : List Record) : Prop :=
  ∃ record, payload = .object record ∧ s.rowsOf record = .ok rows

theorem rowsOfPayload_eq_ok_iff {index : Nat} {payload : Json} :
    s.rowsOfPayload index payload = .ok rows ↔ s.RowsOf payload rows := by
  unfold rowsOfPayload RowsOf
  cases payload with
  -- only an object gives rows
  | object record => simp
  | null | bool | number | string | array => simp

/-! ### Payloads -/

/-- **The rows of payloads are the rows of each**, one after another, whatever the position of the
first. -/
theorem unifyFrom_eq_ok_iff {index : Nat} : s.unifyFrom index payloads = .ok rows ↔
    ∃ lists, List.Forall₂ s.RowsOf payloads lists ∧ rows = lists.flatten := by
  induction payloads generalizing index rows with
  | nil => simp [unifyFrom, eq_comm]
  | cons payload payloads ih =>
    rw [unifyFrom, bind_eq_ok_iff]
    constructor
    · rintro ⟨first, hfirst, h⟩
      obtain ⟨more, hmore, h⟩ := bind_eq_ok_iff.1 h
      obtain ⟨lists, hlists, rfl⟩ := ih.1 hmore
      exact ⟨first :: lists, .cons (rowsOfPayload_eq_ok_iff.1 hfirst) hlists,
        (Except.ok.inj h).symm⟩
    · rintro ⟨_, hlists, rfl⟩
      obtain ⟨first, rest, hfirst, hrest, rfl⟩ := List.forall₂_cons_left_iff.1 hlists
      -- the position does not matter, so that of the others is as good as any
      exact ⟨first, rowsOfPayload_eq_ok_iff.2 hfirst,
        bind_eq_ok_iff.2 ⟨_, ih.2 ⟨rest, hrest, rfl⟩, rfl⟩⟩

/-- **The first payloads hold the first rows**, at least as many of them. -/
theorem unify_take (h : s.unify payloads = .ok rows) (n : Nat) :
    ∃ first, s.unify (payloads.take n) = .ok first ∧ first.take n = rows.take n := by
  obtain ⟨lists, hlists, rfl⟩ := unifyFrom_eq_ok_iff.1 h
  refine ⟨_, unifyFrom_eq_ok_iff.2 ⟨lists.take n, List.forall₂_take n hlists, rfl⟩, ?_⟩
  -- no payload gives no rows, so `n` payloads give `n` rows or all
  refine take_flatten_take (fun l hl => ?_) n
  obtain ⟨_, -, record, -, hrecord⟩ := exists_of_mem_right hlists hl
  exact ne_nil_of_rowsOf hrecord

/-! ### Records without an exploded field -/

/-- **Records are brought into shape one by one** where no field is exploded. -/
theorem unifyFrom_objects (hexplode : s.explode = none) (index : Nat) (records : List Record) :
    s.unifyFrom index (records.map .object) =
      records.mapM fun record => s.project (flatten s.schema record) := by
  induction records generalizing index with
  | nil => rfl
  | cons record records ih =>
    -- one row for each record, as nothing is exploded
    have hfirst : s.rowsOfPayload index (.object record) =
        (s.project (flatten s.schema record)).map fun row => [row] := by
      unfold rowsOfPayload rowsOf
      rw [hexplode]
      rfl
    rw [List.map_cons, unifyFrom, hfirst, ih, List.mapM_cons]
    cases s.project (flatten s.schema record) with
    | error e => rfl
    | ok row => rfl

/-- A record whose keys are declared is flat as it is. -/
theorem flatten_of_declared {schema : Schema} {record : Record}
    (hnodup : (Record.keys record).Nodup)
    (hdeclared : ∀ key ∈ Record.keys record, (schema.column? key).isSome) :
    flatten schema record = record := by
  have hentries : record.flatMap (flatEntries schema) = record := by
    -- an entry stands as it is: an object under a declared key is not flattened
    have hentry : ∀ e ∈ record, flatEntries schema e = [e] := by
      intro e he
      have hsome : (schema.column? e.1).isNone = false :=
        Option.isNone_eq_false_iff.2 (hdeclared e.1 (List.mem_map_of_mem he))
      unfold flatEntries
      split
      case h_1 inner _ => rw [hsome, if_neg Bool.false_ne_true]
      case h_2 => rfl
    rw [List.flatMap_congr hentry]
    exact List.flatMap_singleton' record
  unfold flatten
  rw [hentries, Record.ofList_of_nodup hnodup]

/-! ### Complete rows -/

/-- **A complete row**: the declared columns in their order, and no cell that is refused. -/
structure Complete (s : Shape) (row : Record) : Prop where
  /-- The columns are the declared ones. -/
  keys : Record.keys row = s.schema.outputColumns
  /-- No cell is refused. -/
  accepted : s.Accepts row

/-- The row of a flat record has the cells of the flat record. -/
theorem flatCell_rowOf {flat : Record} {name : String} (h : name ∈ s.schema.outputColumns) :
    flatCell (s.rowOf flat) name = flatCell flat name := by
  unfold flatCell rowOf
  rw [Record.get?_map_mk, if_pos h]
  rfl

theorem complete_rowOf {flat : Record} (h : s.Accepts flat) : s.Complete (s.rowOf flat) where
  keys := keys_rowOf flat
  accepted := by
    intro name hname
    -- the row has the cells of the flat record, so the same of them are refused
    have hsame : refusal? s.schema (s.rowOf flat) name = refusal? s.schema flat name := by
      unfold refusal?
      rw [flatCell_rowOf hname]
    rw [hsame]
    exact h name hname

/-- **Payloads become complete rows**, where columns are distinct. -/
theorem complete_of_mem_unify (hdistinct : s.schema.outputColumns.Nodup)
    (h : s.unify payloads = .ok rows) (hrow : row ∈ rows) : s.Complete row := by
  obtain ⟨lists, hlists, rfl⟩ := unifyFrom_eq_ok_iff.1 h
  obtain ⟨list, hlist, hmem⟩ := List.mem_flatten.1 hrow
  obtain ⟨_, -, record, -, hrecord⟩ := exists_of_mem_right hlists hlist
  obtain ⟨flats, -, haccepts, rfl⟩ := (rowsOf_eq_ok_iff hdistinct).1 hrecord
  obtain ⟨flat, hflat, rfl⟩ := List.mem_map.1 hmem
  exact complete_rowOf (haccepts flat hflat)

/-! ### Failures -/

theorem projectColumns_mismatch (schema : Schema) (names : List String) (flat row : Record) :
    FailsOnly QueryError.IsMismatch (projectColumns schema names flat row) := by
  induction names generalizing flat row with
  | nil => exact failsOnly_ok
  | cons name names ih =>
    rw [projectColumns_cons]
    cases refusal? schema flat name with
    | some type => exact failsOnly_error ⟨_, _, _, rfl⟩
    | none => exact ih _ _

theorem elements_mismatch (field : String) (value : Option Json) :
    FailsOnly QueryError.IsMismatch (elements field value) := by
  -- an element that is no object is refused, and so is a field that is no list
  have helement (item : Json) : FailsOnly QueryError.IsMismatch (element field item) := by
    cases item with
    | object => exact failsOnly_ok
    | null | bool | number | string | array => exact failsOnly_error ⟨_, _, _, rfl⟩
  unfold elements
  split
  · exact failsOnly_ok
  · exact failsOnly_ok
  · exact failsOnly_mapM helement _
  · exact failsOnly_error ⟨_, _, _, rfl⟩

theorem rowsOf_mismatch (s : Shape) (record : Record) :
    FailsOnly QueryError.IsMismatch (s.rowsOf record) := by
  have hflats : FailsOnly QueryError.IsMismatch (s.flats record) := by
    unfold flats
    cases s.explode with
    | none => exact failsOnly_ok
    | some field => exact (elements_mismatch field _).map _
  rw [rowsOf_eq]
  exact hflats.bind fun flats => failsOnly_mapM (fun flat => projectColumns_mismatch _ _ flat []) _

/-- **Payloads fail by a value that is not of the expected kind**, and in no other way. -/
theorem unifyFrom_mismatch (s : Shape) (index : Nat) (payloads : List Json) :
    FailsOnly QueryError.IsMismatch (s.unifyFrom index payloads) := by
  induction payloads generalizing index with
  | nil => exact failsOnly_ok
  | cons payload payloads ih =>
    refine FailsOnly.bind ?_ fun rows => (ih (index + 1)).bind fun more => failsOnly_pure
    cases payload with
    | object record => exact s.rowsOf_mismatch record
    | null | bool | number | string | array => exact failsOnly_error ⟨_, _, _, rfl⟩

end Shape

end Pushdown
