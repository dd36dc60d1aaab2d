import Pushdown.Proofs.Rows.Unification

/-!
# Which rows payloads become

Rows are said here without flattening a record, column by column. An entry of a record `Writes` a
value to a column: to its own, or, if it is an object under a key that is not declared, its values
to the columns inside. What a column holds of a record is what was `LastWritten` to it, and on a row
of an exploded field the element comes before the record (`CellOf`). A row has the declared columns
in their order and such a cell in each (`IsRow`), and `RowsFor` says how many rows there are and of
which elements they are.

The main statement, `unify_shaped`, is that payloads become these rows and no others, one payload
after another, provided that no row has an array or an object under a scalar type. They fail exactly
if one of them is `Defective`, and always with a mismatch. Columns are distinct in all of it: the
second of two columns of one name would find its cell already moved.

The order of a record matters where two of its entries write to one column: with `source` holding a
`title` and an entry of the key `source.title`, the later one is read. A removal by swap changes
this order, so the record without its exploded field is `Record.Without` that field, and not simply
the list of the other entries.

Each half of the argument is about look-ups. What is last written is what a record made up from the
flat entries finds (`lastWritten_iff`), so a cell is a cell of the flat record (`cellOf_iff`). Keys
are distinct in payloads, as they are in every value that was read; this makes it the one cell.
-/

namespace Pushdown

namespace Shape

variable {s : Shape} {schema : Schema} {record rest row : Record} {name field : String} {v : Json}
  {payloads : List Json} {rows : List Record}

/-! ### Specification -/

/-- **What an entry writes** to columns, where its record is flattened by one level. -/
inductive Writes (schema : Schema) : String × Json → String → Json → Prop where
  /-- A value is written under its key, unless it is an object and the key is not declared. -/
  | whole {key : String} {v : Json}
      (h : (∃ c, schema.column? key = some c) ∨ ∀ inner, v ≠ .object inner) :
      Writes schema (key, v) key v
  /-- Of any other object the values are written. -/
  | inside {key : String} {inner : Record} {k : String} {v : Json}
      (h : schema.column? key = none) (hv : (k, v) ∈ inner) :
      Writes schema (key, .object inner) (key ++ "." ++ k) v

/-- **The value last written** to a column by the entries of a record. -/
def LastWritten (schema : Schema) (record : Record) (name : String) (v : Json) : Prop :=
  ∃ before e after, record = before ++ e :: after ∧ Writes schema e name v ∧
    ∀ e' ∈ after, ∀ v', ¬ Writes schema e' name v'

/-- The entries of an element, with the columns that they have. -/
def under (field : String) (item : Record) : Record := item.map fun e => (field ++ "." ++ e.1, e.2)

/-- **The cell of a row**: of the element if it has one, else of the record, else null. -/
inductive CellOf (schema : Schema) (element record : Record) (name : String) : Json → Prop where
  /-- The element has the cell. -/
  | element {v : Json} (hv : (name, v) ∈ element) : CellOf schema element record name v
  /-- The element has none, and the record has. -/
  | record {v : Json} (hnone : ∀ w, (name, w) ∉ element)
      (hv : LastWritten schema record name v) : CellOf schema element record name v
  /-- Neither has. -/
  | missing (hnone : ∀ w, (name, w) ∉ element) (h : ∀ w, ¬ LastWritten schema record name w) :
      CellOf schema element record name .null

/-- **A row of an element and a record**: exactly the declared columns, in their order. -/
def IsRow (schema : Schema) (element record row : Record) : Prop :=
  Record.keys row = schema.outputColumns ∧ ∀ e ∈ row, CellOf schema element record e.1 e.2

/-- **The rows that a payload gives**, whatever their cells are. -/
inductive RowsFor (s : Shape) : Json → List Record → Prop where
  /-- No field is exploded. -/
  | whole {record row : Record} (hexplode : s.explode = none)
      (hrow : IsRow s.schema [] record row) : RowsFor s (.object record) [row]
  /-- There is no element. -/
  | without {field : String} {record rest row : Record} (hexplode : s.explode = some field)
      (hrest : Record.Without field record rest)
      (hnone : ∀ v, (field, v) ∈ record → v = .null ∨ v = .array [])
      (hrow : IsRow s.schema [] rest row) : RowsFor s (.object record) [row]
  /-- There is one row for each element. -/
  | each {field : String} {record rest : Record} {items rows : List Record}
      (hexplode : s.explode = some field) (hrest : Record.Without field record rest)
      (hitems : (field, .array (items.map .object)) ∈ record) (hsome : items ≠ [])
      (hrows : List.Forall₂ (fun item row => IsRow s.schema (under field item) rest row)
        items rows) :
      RowsFor s (.object record) rows

/-- **No array and no object** stands under a column of a scalar type. -/
def Fitting (schema : Schema) (row : Record) : Prop :=
  ∀ e ∈ row, ∀ c, schema.column? e.1 = some c → c.type.isScalar = true → e.2.isContainer = false

/-- **A payload that cannot be brought into shape.** -/
inductive Defective (s : Shape) : Json → Prop where
  /-- It is no object. -/
  | noObject {payload : Json} (h : ∀ record, payload ≠ .object record) : Defective s payload
  /-- Its exploded field holds something else than a list of objects. -/
  | noList {field : String} {record : Record} {v : Json} (hexplode : s.explode = some field)
      (hv : (field, v) ∈ record) (hnull : v ≠ .null)
      (h : ∀ items : List Record, v ≠ .array (items.map .object)) : Defective s (.object record)
  /-- One of its rows does not fit. -/
  | misfit {payload : Json} {rows : List Record} {row : Record} (hrows : RowsFor s payload rows)
      (hrow : row ∈ rows) (h : ¬ Fitting s.schema row) : Defective s payload

/-! ### Cells -/

theorem writes_iff {e : String × Json} :
    Writes schema e name v ↔ (name, v) ∈ flatEntries schema e := by
  constructor
  · rintro (h | ⟨h, hv⟩)
    · unfold flatEntries
      split
      -- an object is written whole only if its key is declared
      case h_1 inner hinner =>
        rcases h with ⟨c, hc⟩ | hno
        · rw [hc]
          exact List.mem_singleton.2 rfl
        · exact absurd hinner (hno inner)
      case h_2 => exact List.mem_singleton.2 rfl
    · unfold flatEntries
      dsimp only
      rw [h]
      exact List.mem_map.2 ⟨_, hv, rfl⟩
  · intro h
    obtain ⟨key, value⟩ := e
    unfold flatEntries at h
    split at h
    case h_1 inner hinner =>
      obtain rfl : value = .object inner := hinner
      cases hcolumn : schema.column? key with
      | some c =>
        rw [hcolumn] at h
        obtain ⟨rfl, rfl⟩ := Prod.mk.inj (List.mem_singleton.1 h)
        exact .whole (.inl ⟨c, hcolumn⟩)
      -- an object under another key is written inside, key by key
      | none =>
        rw [hcolumn] at h
        obtain ⟨⟨k, w⟩, hk, heq⟩ := List.mem_map.1 h
        obtain ⟨rfl, rfl⟩ := Prod.mk.inj heq
        exact .inside hcolumn hk
    case h_2 hno =>
      obtain ⟨rfl, rfl⟩ := Prod.mk.inj (List.mem_singleton.1 h)
      exact .whole (.inr hno)

theorem nodup_keys_under {item : Record} (h : (Record.keys item).Nodup) (field : String) :
    (Record.keys (under field item)).Nodup := by
  have hkeys : Record.keys (under field item) =
      (Record.keys item).map fun k => field ++ "." ++ k := by
    unfold Record.keys under
    rw [List.map_map, List.map_map]
    rfl
  rw [hkeys]
  -- what stands in front of the keys is the same for all
  exact h.map fun k k' heq => (String.append_right_inj _).1 heq

/-- An entry writes to no column twice. -/
theorem nodup_keys_flatEntries {e : String × Json} (h : e.2.WellFormed) :
    (Record.keys (flatEntries schema e)).Nodup := by
  unfold flatEntries
  split
  case h_1 inner hinner =>
    rw [hinner] at h
    split
    case isTrue => exact nodup_keys_under h.1 e.1
    case isFalse => exact List.nodup_singleton _
  case h_2 => exact List.nodup_singleton _

theorem lastWritten_cons_iff {e : String × Json} :
    LastWritten schema (e :: record) name v ↔ LastWritten schema record name v ∨
      Writes schema e name v ∧ ∀ e' ∈ record, ∀ v', ¬ Writes schema e' name v' := by
  constructor
  · -- the last entry that writes is the first of the record, or one of the others
    rintro ⟨before, e', after, heq, hwrites, hafter⟩
    cases before with
    | nil =>
      obtain ⟨rfl, rfl⟩ := List.cons.inj heq
      exact .inr ⟨hwrites, hafter⟩
    | cons first before =>
      obtain ⟨rfl, rfl⟩ := List.cons.inj heq
      exact .inl ⟨before, e', after, rfl, hwrites, hafter⟩
  · rintro (⟨before, e', after, rfl, hwrites, hafter⟩ | ⟨hwrites, hafter⟩)
    · exact ⟨e :: before, e', after, rfl, hwrites, hafter⟩
    · exact ⟨[], e, record, rfl, hwrites, hafter⟩

/-- **What was last written is what the flat record finds.** -/
theorem lastWritten_iff (h : ∀ e ∈ record, e.2.WellFormed) :
    LastWritten schema record name v ↔ Record.get? (flatten schema record) name = some v := by
  have hflat : Record.get? (flatten schema record) name =
      Record.get? (record.flatMap (flatEntries schema)).reverse name := by
    unfold flatten Record.ofList
    rw [Record.get?_insertAll_reverse, Record.get?_nil, Option.or_none]
  rw [hflat]
  clear hflat
  -- entry by entry: it counts only if none of the later ones writes to the column
  induction record with
  | nil =>
    refine iff_of_false ?_ nofun
    rintro ⟨before, e, after, heq, -⟩
    exact absurd heq (List.append_ne_nil_of_right_ne_nil before (List.cons_ne_nil e after)).symm
  | cons e record ih =>
    obtain ⟨he, hrecord⟩ := List.forall_mem_cons.1 h
    have hnone : Record.get? (record.flatMap (flatEntries schema)).reverse name = none ↔
        ∀ e' ∈ record, ∀ v', ¬ Writes schema e' name v' := by
      simp only [Record.get?_eq_none_iff, List.mem_reverse, List.mem_flatMap, writes_iff]
      exact ⟨fun h e' he' v' hmem => h v' ⟨e', he', hmem⟩,
        fun h v' ⟨e', he', hmem⟩ => h e' he' v' hmem⟩
    have hlast : LastWritten schema record name v ↔
        Record.get? (record.flatMap (flatEntries schema)).reverse name = some v := ih hrecord
    -- of the entries behind it none writes, or one of them is found first
    rw [lastWritten_cons_iff, hlast, List.flatMap_cons, List.reverse_append, Record.get?_append,
      ← Record.get?_perm (nodup_keys_flatEntries he) (List.reverse_perm _).symm,
      Option.or_eq_some_iff, hnone, Record.get?_eq_some_iff (nodup_keys_flatEntries he),
      writes_iff, and_comm]

/-- **The cell of a row is that of the flat record** with the element. -/
theorem cellOf_iff {element : Record} (helement : (Record.keys element).Nodup)
    (h : ∀ e ∈ record, e.2.WellFormed) :
    CellOf schema element record name v ↔
      v = flatCell (Record.insertAll (flatten schema record) element) name := by
  unfold flatCell
  rw [Record.get?_insertAll helement]
  cases hget : Record.get? element name with
  | some w =>
    have hmem : (name, w) ∈ element := Record.mem_of_get?_eq_some hget
    constructor
    · -- an entry of the element is the one that the element finds
      rintro (hv | ⟨hnone, -⟩ | ⟨hnone, -⟩)
      · exact Option.some.inj ((Record.get?_of_mem helement hv).symm.trans hget)
      · exact absurd hmem (hnone w)
      · exact absurd hmem (hnone w)
    · rintro rfl
      exact .element hmem
  | none =>
    have hnone := Record.get?_eq_none_iff.1 hget
    show _ ↔ v = (Record.get? (flatten schema record) name).getD .null
    constructor
    · -- the element has none, so the flat record decides
      rintro (hv | ⟨-, hv⟩ | ⟨-, hno⟩)
      · exact absurd hv (hnone v)
      · rw [(lastWritten_iff h).1 hv]
        rfl
      · simp only [lastWritten_iff h] at hno
        rw [Option.eq_none_iff_forall_ne_some.2 hno]
        rfl
    · rintro rfl
      cases hflat : Record.get? (flatten schema record) name with
      | some w => exact .record hnone ((lastWritten_iff h).2 hflat)
      | none =>
        refine .missing hnone fun w hw => ?_
        exact absurd (((lastWritten_iff h).1 hw).symm.trans hflat) nofun

/-! ### Rows -/

theorem isRow_iff {element : Record} (helement : (Record.keys element).Nodup)
    (h : ∀ e ∈ record, e.2.WellFormed) :
    IsRow s.schema element record row ↔
      row = s.rowOf (Record.insertAll (flatten s.schema record) element) := by
  unfold IsRow rowOf
  simp only [cellOf_iff helement h]
  exact Record.eq_map_mk_iff.symm

theorem elements_eq_ok_iff {value : Option Json} {items : List Record} :
    elements field value = .ok items ↔
      (value = none ∨ value = some .null) ∧ items = [] ∨
        value = some (.array (items.map .object)) := by
  -- a list has elements exactly if all of its items are objects
  have helement (v : Json) (item : Record) : element field v = .ok item ↔ v = .object item := by
    cases v <;> simp [element]
  cases value with
  | none => simp [elements, eq_comm]
  | some v =>
    cases v with
    | array values =>
      simp only [elements, mapM_eq_ok_iff, helement]
      rw [← List.forall₂_map_right_iff, List.forall₂_eq_eq_eq]
      simp
    | null => simp [elements, eq_comm]
    | bool | number | string | object => simp [elements]

/-- The rows for a record where no field is exploded. -/
theorem rowsFor_whole_iff (hexplode : s.explode = none) (h : (Json.object record).WellFormed) :
    s.RowsFor (.object record) rows ↔ rows = [s.rowOf (flatten s.schema record)] := by
  have hrow {row : Record} :
      IsRow s.schema [] record row ↔ row = s.rowOf (flatten s.schema record) :=
    isRow_iff List.nodup_nil fun e he => Json.wellFormed_of_mem h he
  constructor
  · rintro (⟨-, hisRow⟩ | ⟨hsome, -⟩ | ⟨hsome, -⟩)
    · exact congrArg (fun row => [row]) (hrow.1 hisRow)
    · exact absurd (hexplode.symm.trans hsome) nofun
    · exact absurd (hexplode.symm.trans hsome) nofun
  · rintro rfl
    exact .whole hexplode (hrow.2 rfl)

section

variable (h : (Json.object record).WellFormed)
include h

theorem without_swapRemove (field : String) :
    Record.Without field record (Record.swapRemove record field) :=
  (Record.without_iff h.1).2 rfl

theorem wellFormed_of_mem_swapRemove (field : String) :
    ∀ e ∈ Record.swapRemove record field, e.2.WellFormed := by
  intro e he
  exact Json.wellFormed_of_mem h ((without_swapRemove h field).mem he)

/-- The row of a record without its exploded field. -/
theorem isRow_swapRemove_iff (field : String) :
    IsRow s.schema [] (Record.swapRemove record field) row ↔
      row = s.rowOf (flatten s.schema (Record.swapRemove record field)) :=
  isRow_iff List.nodup_nil (wellFormed_of_mem_swapRemove h field)

/-- The rows of the elements of an exploded field. -/
theorem forall₂_isRow_iff {items : List Record}
    (hmem : (field, .array (items.map .object)) ∈ record) :
    List.Forall₂ (fun item row =>
        IsRow s.schema (under field item) (Record.swapRemove record field) row) items rows ↔
      rows = items.map fun item =>
        s.rowOf (withElement field (flatten s.schema (Record.swapRemove record field)) item) := by
  rw [eq_comm, ← List.forall₂_eq_eq_eq, List.forall₂_map_left_iff]
  refine forall₂_congr_of_mem fun item hitem row => ?_
  -- the element is a value inside of the record, so its keys are distinct as well
  have hwell : (Json.object item).WellFormed :=
    Json.wellFormed_of_mem_items (Json.wellFormed_of_mem h hmem) (List.mem_map_of_mem hitem)
  rw [isRow_iff (nodup_keys_under hwell.1 field) (wellFormed_of_mem_swapRemove h field)]
  exact eq_comm

/-- The rows for a record with an exploded field: one for each element, or one if there is none. -/
theorem rowsFor_exploded_iff (hexplode : s.explode = some field) :
    s.RowsFor (.object record) rows ↔
      ∃ items, elements field (Record.get? record field) = .ok items ∧
        rows = (if items.isEmpty then [flatten s.schema (Record.swapRemove record field)]
          else items.map (withElement field
            (flatten s.schema (Record.swapRemove record field)))).map s.rowOf := by
  constructor
  · intro hfor
    cases hfor with
    -- the field is exploded, so there are two ways left
    | whole hnone => exact absurd (hexplode.symm.trans hnone) nofun
    | without hexplode' hwithout hnone hisRow =>
      obtain rfl := Option.some.inj (hexplode.symm.trans hexplode')
      obtain rfl := (Record.without_iff h.1).1 hwithout
      have hrow := (isRow_swapRemove_iff h field).1 hisRow
      refine ⟨[], elements_eq_ok_iff.2 ?_, congrArg (fun row => [row]) hrow⟩
      cases hget : Record.get? record field with
      | none => exact .inl ⟨.inl rfl, rfl⟩
      | some v =>
        -- what the record has there is null or an empty list, which have no elements
        rcases hnone v (Record.mem_of_get?_eq_some hget) with rfl | rfl
        · exact .inl ⟨.inr rfl, rfl⟩
        · exact .inr rfl
    | @each _ _ _ items _ hexplode' hwithout hmem hsome hforall =>
      obtain rfl := Option.some.inj (hexplode.symm.trans hexplode')
      obtain rfl := (Record.without_iff h.1).1 hwithout
      -- the keys of a record are distinct, so the list is the one that is found
      refine ⟨items, elements_eq_ok_iff.2 (.inr (Record.get?_of_mem h.1 hmem)), ?_⟩
      rw [if_neg (mt List.isEmpty_iff.1 hsome), List.map_map]
      exact (forall₂_isRow_iff h hmem).1 hforall
  · rintro ⟨items, helements, rfl⟩
    have hwithout := without_swapRemove h field
    cases items with
    | nil =>
      -- without elements the field is missing, null or an empty list
      refine .without hexplode hwithout (fun v hv => ?_) ((isRow_swapRemove_iff h field).2 rfl)
      rw [Record.get?_of_mem h.1 hv, elements_eq_ok_iff] at helements
      rcases helements with ⟨hnone | hnull, -⟩ | hempty
      · exact absurd hnone nofun
      · exact .inl (Option.some.inj hnull)
      · exact .inr (Option.some.inj hempty)
    | cons item items =>
      -- with elements it is a list
      have hget := (elements_eq_ok_iff.1 helements).resolve_left fun hnil =>
        List.cons_ne_nil item items hnil.2
      have hmem := Record.mem_of_get?_eq_some hget
      refine .each hexplode hwithout hmem (List.cons_ne_nil item items) ?_
      rw [if_neg (by simp), List.map_map]
      exact (forall₂_isRow_iff h hmem).2 rfl

end

/-- **The rows for a record are those of its flat records.** -/
theorem rowsFor_object_iff (h : (Json.object record).WellFormed) :
    s.RowsFor (.object record) rows ↔
      ∃ flats, s.flats record = .ok flats ∧ rows = flats.map s.rowOf := by
  unfold flats
  cases hexplode : s.explode with
  | none =>
    rw [rowsFor_whole_iff hexplode h]
    simp
  | some field =>
    rw [rowsFor_exploded_iff h hexplode]
    simp only [map_eq_ok_iff]
    constructor
    · rintro ⟨items, helements, rfl⟩
      exact ⟨_, ⟨items, helements, rfl⟩, rfl⟩
    · rintro ⟨_, ⟨items, helements, rfl⟩, rfl⟩
      exact ⟨items, helements, rfl⟩

/-- A row fits exactly if none of its cells is refused. -/
theorem fitting_rowOf_iff {flat : Record} : Fitting s.schema (s.rowOf flat) ↔ s.Accepts flat := by
  unfold Fitting Accepts rowOf
  rw [List.forall_mem_map]
  refine forall_congr' fun name => imp_congr_right fun _ => ?_
  unfold refusal?
  cases s.schema.column? name with
  | none => exact iff_of_true nofun rfl
  -- one side says what must not be, and the other that it is not
  | some c =>
    simp only [Option.some.injEq, forall_eq', Option.bind_some, Bool.and_eq_true]
    rw [ite_eq_right_iff]
    simp

/-! ### Payloads -/

/-- **A payload becomes the rows that it gives, if all of them fit.** -/
theorem rowsOf_iff_rowsFor (hdistinct : s.schema.outputColumns.Nodup) {payload : Json}
    (h : payload.WellFormed) :
    s.RowsOf payload rows ↔ s.RowsFor payload rows ∧ ∀ row ∈ rows, Fitting s.schema row := by
  unfold RowsOf
  constructor
  · rintro ⟨record, rfl, hrows⟩
    obtain ⟨flats, hflats, haccepts, rfl⟩ := (rowsOf_eq_ok_iff hdistinct).1 hrows
    -- the rows are those of flat records, which are accepted as the rows fit
    refine ⟨(rowsFor_object_iff h).2 ⟨flats, hflats, rfl⟩, List.forall_mem_map.2 ?_⟩
    intro flat hflat
    exact fitting_rowOf_iff.2 (haccepts flat hflat)
  · rintro ⟨hfor, hfit⟩
    obtain ⟨record, rfl⟩ : ∃ record, payload = .object record := by
      cases hfor <;> exact ⟨_, rfl⟩
    obtain ⟨flats, hflats, rfl⟩ := (rowsFor_object_iff h).1 hfor
    refine ⟨record, rfl, (rowsOf_eq_ok_iff hdistinct).2 ⟨flats, hflats, ?_, rfl⟩⟩
    intro flat hflat
    exact fitting_rowOf_iff.1 (hfit _ (List.mem_map_of_mem hflat))

/-- There are flat records unless the exploded field holds something else than a list of objects. -/
theorem exists_flats_iff (h : (Record.keys record).Nodup) :
    (∃ flats, s.flats record = .ok flats) ↔
      ∀ field v, s.explode = some field → (field, v) ∈ record → v ≠ .null →
        ∃ items : List Record, v = .array (items.map .object) := by
  unfold Shape.flats
  cases s.explode with
  | none => exact iff_of_true ⟨_, rfl⟩ nofun
  | some field =>
    simp only [map_eq_ok_iff, elements_eq_ok_iff]
    constructor
    · rintro ⟨-, items, helements, -⟩ field' v hfield hv hnull
      -- what the record has under the field is what is looked at
      obtain rfl := Option.some.inj hfield
      rw [Record.get?_of_mem h hv] at helements
      rcases helements with ⟨hnone | hsome, -⟩ | hlist
      · exact absurd hnone nofun
      · exact absurd (Option.some.inj hsome) hnull
      · exact ⟨items, Option.some.inj hlist⟩
    · intro hlist
      cases hget : Record.get? record field with
      | none => exact ⟨_, [], .inl ⟨.inl rfl, rfl⟩, rfl⟩
      | some v =>
        by_cases hnull : v = .null
        · exact ⟨_, [], .inl ⟨.inr (congrArg some hnull), rfl⟩, rfl⟩
        · obtain ⟨items, rfl⟩ := hlist field v rfl (Record.mem_of_get?_eq_some hget) hnull
          exact ⟨_, items, .inr rfl, rfl⟩

/-- **What a payload cannot be brought into shape for**: it gives no rows, or one that does not
fit. -/
theorem defective_iff (hdistinct : s.schema.outputColumns.Nodup) {payload : Json}
    (h : payload.WellFormed) :
    s.Defective payload ↔ ¬ ∃ rows, s.RowsOf payload rows := by
  constructor
  · rintro hdefective ⟨rows, record, rfl, hrows⟩
    obtain ⟨hfor, hfit⟩ := (rowsOf_iff_rowsFor hdistinct h).1 ⟨record, rfl, hrows⟩
    obtain ⟨flats, hflats, rfl⟩ := (rowsFor_object_iff h).1 hfor
    cases hdefective with
    | noObject hno => exact hno record rfl
    | noList hexplode hv hnull hno =>
      obtain ⟨items, hitems⟩ := (exists_flats_iff h.1).1 ⟨flats, hflats⟩ _ _ hexplode hv hnull
      exact hno items hitems
    | misfit hfor' hrow hmisfit =>
      -- the rows that it gives are these
      obtain ⟨flats', hflats', rfl⟩ := (rowsFor_object_iff h).1 hfor'
      obtain rfl := Except.ok.inj (hflats.symm.trans hflats')
      exact hmisfit (hfit _ hrow)
  · intro hno
    cases payload with
    | null | bool | number | string | array => exact .noObject nofun
    | object record =>
      -- it gives no rows, or rows of which one does not fit
      by_cases hflats : ∃ flats, s.flats record = .ok flats
      · obtain ⟨flats, hflats⟩ := hflats
        have hfor := (rowsFor_object_iff h).2 ⟨flats, hflats, rfl⟩
        have hmisfit : ¬ ∀ row ∈ flats.map s.rowOf, Fitting s.schema row := fun hfit =>
          hno ⟨_, (rowsOf_iff_rowsFor hdistinct h).2 ⟨hfor, hfit⟩⟩
        push Not at hmisfit
        obtain ⟨row, hrow, hmisfit⟩ := hmisfit
        exact .misfit hfor hrow hmisfit
      · rw [exists_flats_iff h.1] at hflats
        push Not at hflats
        obtain ⟨field, v, hexplode, hv, hnull, hbad⟩ := hflats
        exact .noList hexplode hv hnull hbad

theorem isOk_unifyFrom_iff {index : Nat} :
    IsOk (s.unifyFrom index payloads) ↔ ∀ payload ∈ payloads, ∃ rows, s.RowsOf payload rows := by
  induction payloads generalizing index with
  | nil => exact iff_of_true isOk_ok nofun
  | cons payload payloads ih =>
    have hpayloads : IsOk (s.unifyFrom (index + 1) payloads) ↔ _ := ih
    -- the first payload has rows, and the others have theirs whatever the position
    rw [unifyFrom, List.forall_mem_cons, ← hpayloads]
    have hmore (rows : List Record) : IsOk (s.unifyFrom (index + 1) payloads >>= fun more =>
        pure (rows ++ more)) ↔ IsOk (s.unifyFrom (index + 1) payloads) :=
      (isOk_bind_iff fun more => iff_true_intro isOk_pure).trans (and_iff_left trivial)
    rw [isOk_bind_iff hmore]
    exact and_congr_left fun _ => exists_congr fun rows => rowsOfPayload_eq_ok_iff

/-- **Payloads become the declared rows, or there is a mismatch**, where rows have no column twice.
They fail exactly if one of them is defective, and always with a mismatch. Otherwise their rows are
those that they give, one payload after another, and all of them fit. -/
theorem unify_shaped (hdistinct : s.schema.outputColumns.Nodup)
    (hpayloads : ∀ payload ∈ payloads, payload.WellFormed) :
    ((∃ e, s.unify payloads = .error e) ↔ ∃ payload ∈ payloads, s.Defective payload) ∧
    (∀ e, s.unify payloads = .error e →
      ∃ field expected found, e = .schemaMismatch field expected found) ∧
    ∀ rows, s.unify payloads = .ok rows ↔ ∃ lists, List.Forall₂ s.RowsFor payloads lists ∧
      rows = lists.flatten ∧ ∀ row ∈ rows, Fitting s.schema row := by
  refine ⟨?_, s.unifyFrom_mismatch 0 payloads, fun rows => ?_⟩
  · have hfails : (∃ e, s.unify payloads = .error e) ↔ ¬ IsOk (s.unifyFrom 0 payloads) := by
      unfold unify IsOk
      cases s.unifyFrom 0 payloads <;> simp
    rw [hfails, isOk_unifyFrom_iff]
    push Not
    refine exists_congr fun payload => and_congr_right fun hmem => ?_
    -- the payloads are well formed, so each of them is defective exactly if it has no rows
    rw [defective_iff hdistinct (hpayloads payload hmem), not_exists]
  · unfold unify
    rw [unifyFrom_eq_ok_iff]
    refine exists_congr fun lists => ?_
    -- rows and their fitting are said list by list, and all lists fit if all rows do
    rw [forall₂_congr_of_mem fun payload hmem list =>
      rowsOf_iff_rowsFor hdistinct (hpayloads payload hmem), forall₂_and_right, and_assoc]
    refine and_congr_right fun _ => ?_
    rw [and_comm]
    refine and_congr_right fun hrows => ?_
    rw [hrows]
    simp only [List.mem_flatten]
    exact ⟨fun h row ⟨list, hlist, hrow⟩ => h list hlist row hrow,
      fun h list hlist row hrow => h row ⟨list, hlist, hrow⟩⟩

/-- Threads with the title of their source, and one row for each reply. -/
def repliedThreads : Shape :=
  ⟨⟨"threads", [.output "source.title" .text, .output "replies.user" .text]⟩, some "replies"⟩

/-- A thread with two titles, of which the flat one is the last entry. Without the replies it is the
first. -/
def twoTitles : Json :=
  .object [("replies", .array [.object [("user", "ann")], .object []]),
    ("source", .object [("title", "inside")]), ("source.title", "flat")]

/-- Its rows: one for the reply of a user, and one for the reply of none. -/
def insideTitles : List Record :=
  [[("source.title", "inside"), ("replies.user", "ann")],
    [("source.title", "inside"), ("replies.user", .null)]]

/-- The title inside counts, since the removal of the replies has put it behind the flat one. -/
theorem unify_shaped_twoTitles :
    repliedThreads.schema.outputColumns.Nodup ∧ (∀ payload ∈ [twoTitles], payload.WellFormed) ∧
      repliedThreads.unify [twoTitles] = .ok insideTitles ∧
      ∃ lists, List.Forall₂ repliedThreads.RowsFor [twoTitles] lists ∧
        insideTitles = lists.flatten ∧
        ∀ row ∈ insideTitles, Fitting repliedThreads.schema row := by
  have hpayloads : ∀ payload ∈ [twoTitles], payload.WellFormed := by
    intro payload hpayload
    obtain rfl := List.mem_singleton.1 hpayload
    simp [twoTitles, Json.WellFormed, Json.WellFormedEntries, Json.WellFormedItems]
  have hdistinct : repliedThreads.schema.outputColumns.Nodup := by decide
  have hunify : repliedThreads.unify [twoTitles] = .ok insideTitles := rfl
  exact ⟨hdistinct, hpayloads, hunify,
    ((unify_shaped hdistinct hpayloads).2.2 insideTitles).1 hunify⟩

end Shape

end Pushdown
