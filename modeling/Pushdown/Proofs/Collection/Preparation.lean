import Pushdown.Proofs.Json.Entries
import Pushdown.Proofs.Outcome
import Pushdown.Proofs.Store.Recording
import Pushdown.Tables.Collection

/-!
# What a row becomes in the store

A row is prepared column by column. Its columns become fields of an entity, `StoredAs`, and the
entries of its metadata are spread among them, `prepareRow_spreads`. Metadata and vectors may be
given as texts (`Gives`); a text that does not say what it stands for is refused, so what is stored
is always what was given.

Spreading is insertion of all entries, unless one of them has a reserved name
(`spreadMetadata_eq_ok_iff`). Rows that are accepted have all been prepared and sent to the store in
one call (`insert_calls`).
-/

namespace Pushdown.Collection

variable {row out stored m : Record} {given v : Json}

/-! ### Specification -/

/-- **What a value is given by**: by itself or by its JSON text. -/
inductive Gives : (given v : Json) → Prop where
  /-- A value gives itself. -/
  | value (v : Json) : Gives v v
  /-- A text gives the value that it writes. -/
  | text {text : String} {v : Json} (h : Json.read? text = some v) : Gives (.string text) v

/-- **A row has a metadata document.** -/
def HasMetadata (row m : Record) : Prop :=
  ∃ given, row.get? "metadata" = some given ∧ Gives given (.object m)

/-- **The columns of a row beside its metadata.** -/
def columnsOf (row : Record) : Record := row.filter (·.1 ≠ "metadata")

/-- **A column as a field of an entity**: the same name, and the same value, where a vector may have
been given as a text. -/
structure StoredAs (column field : String × Json) : Prop where
  name : field.1 = column.1
  vector : column.1 = "embeddings" → Gives column.2 field.2 ∧ ∃ items, field.2 = .array items
  value : column.1 ≠ "embeddings" → field.2 = column.2

/-! ### Columns -/

/-- A value that is no text is decoded from whatever gives it. -/
theorem decoded_of_gives {column expected : String} (hv : v.isString = false) (h : Gives given v) :
    decoded column expected given = .ok v := by
  cases h with
  | value =>
    cases given with
    -- a text would be read again, so a value that is no text is needed here
    | string => exact Bool.noConfusion hv
    | null | bool | number | array | object => rfl
  | text hread => rw [decoded, hread]

theorem gives_of_decoded {column expected : String} (h : decoded column expected given = .ok v) :
    Gives given v := by
  cases given with
  | string text =>
    rw [decoded] at h
    split at h
    -- a text is stored as what it writes
    case h_1 w hread => exact .text (hread.trans (congrArg some (Except.ok.inj h)))
    case h_2 => exact absurd h nofun
  | null | bool | number | array | object => exact Except.ok.inj h ▸ .value _

theorem metadataOf_of_gives (h : Gives given (.object m)) : metadataOf given = .ok (some m) := by
  unfold metadataOf
  rw [decoded_of_gives rfl h]
  rfl

/-- What is taken for a vector is an array. -/
theorem gives_of_embeddingsOf (h : embeddingsOf given = .ok v) :
    Gives given v ∧ ∃ items, v = .array items := by
  unfold embeddingsOf at h
  obtain ⟨w, hw, h⟩ := bind_eq_ok_iff.1 h
  -- only an array passes the check, and it was given by itself or as a text
  cases w with
  | array items =>
    obtain rfl : .array items = v := Except.ok.inj h
    exact ⟨gives_of_decoded hw, items, rfl⟩
  | null | bool | number | string | object => exact absurd h nofun

/-- **What the preparation of columns comes to**: fields behind those that are there, and the
metadata of the column for it, if there is one. -/
structure Prepared (out : Record) (found : Option Record) (row stored : Record)
    (found' : Option Record) : Prop where
  fields : ∃ fields, List.Forall₂ StoredAs (columnsOf row) fields ∧ stored = out ++ fields
  metadata : (row.get? "metadata").elim (found' = found) (metadataOf · = .ok found')

section

variable {found found₁ found' : Option Record} {column : String} {value field : Json}

/-- A column that becomes a field. -/
theorem Prepared.cons_field (hne : column ≠ "metadata")
    (hstored : StoredAs (column, value) (column, field))
    (h : Prepared (out ++ [(column, field)]) found row stored found') :
    Prepared out found ((column, value) :: row) stored found' := by
  obtain ⟨⟨fields, hfields, rfl⟩, hfound⟩ := h
  constructor
  · refine ⟨(column, field) :: fields, ?_, List.append_assoc ..⟩
    -- the field stands behind those that are there, in front of those that follow
    rw [columnsOf, List.filter_cons_of_pos (by simpa using hne)]
    exact .cons hstored hfields
  · rw [Record.get?_cons, if_neg hne]
    exact hfound

/-- The column of the metadata, if there is no second one. -/
theorem Prepared.cons_metadata (hrow : "metadata" ∉ Record.keys row)
    (hfound : metadataOf value = .ok found₁) (h : Prepared out found₁ row stored found') :
    Prepared out found (("metadata", value) :: row) stored found' := by
  -- the one column of this name is the first, so the rest brings no other metadata
  have hnone : Record.get? row "metadata" = none := by
    rw [← Option.not_isSome_iff_eq_none, Record.get?_isSome_iff]
    exact hrow
  have heq : found' = found₁ := by
    have := h.metadata
    rwa [hnone] at this
  constructor
  · rw [columnsOf, List.filter_cons_of_neg (by simp)]
    exact h.fields
  · rw [heq]
    exact hfound

/-- **Columns are prepared one by one.** -/
theorem prepared_of_prepareColumns (hrow : (Record.keys (out ++ row)).Nodup)
    (h : prepareColumns out found row = .ok (stored, found')) :
    Prepared out found row stored found' := by
  induction row generalizing out found with
  | nil =>
    obtain ⟨rfl, rfl⟩ := Prod.mk.inj (Except.ok.inj h)
    exact ⟨⟨[], .nil, (List.append_nil _).symm⟩, rfl⟩
  | cons e row ih =>
    obtain ⟨column, value⟩ := e
    have hkeys := hrow
    rw [Record.keys_append, Record.keys_cons, List.nodup_append, List.nodup_cons] at hkeys
    -- the column is new among the fields, and does not come again in the row
    obtain ⟨-, ⟨honce, -⟩, hdisjoint⟩ := hkeys
    have hnew : column ∉ Record.keys out := fun hmem =>
      hdisjoint _ hmem _ List.mem_cons_self rfl
    -- names do not repeat behind a new field either
    have hstep {field : Json} (h : prepareColumns (out.insert column field) found row =
        .ok (stored, found')) : Prepared (out ++ [(column, field)]) found row stored found' := by
      rw [Record.insert_of_notMem hnew] at h
      refine ih ?_ h
      simpa [Record.keys] using hrow
    rw [prepareColumns] at h
    split at h
    -- a distance is refused
    case isTrue => cases h
    case isFalse =>
      split at h
      -- metadata is set aside, and the fields stay as they are
      case isTrue hmeta =>
        subst hmeta
        obtain ⟨found₁, hfound, h⟩ := bind_eq_ok_iff.1 h
        refine .cons_metadata honce hfound (ih ?_ h)
        exact hrow.sublist (((List.sublist_cons_self _ row).append_left out).map Prod.fst)
      case isFalse hmeta =>
        split at h
        case isTrue hvector =>
          -- a vector may be given as a text, any other column is stored as it is
          obtain ⟨vector, hgiven, h⟩ := bind_eq_ok_iff.1 h
          have hstored : StoredAs (column, value) (column, vector) :=
            ⟨rfl, fun _ => gives_of_embeddingsOf hgiven, (absurd hvector ·)⟩
          exact .cons_field hmeta hstored (hstep h)
        case isFalse hvector =>
          exact .cons_field hmeta ⟨rfl, (absurd · hvector), fun _ => rfl⟩ (hstep h)

end

/-! ### Metadata -/

/-- **Spreading inserts all entries**, none of which has a reserved name. -/
theorem spreadMetadata_eq_ok_iff : spreadMetadata out m = .ok stored ↔
    (∀ key ∈ Record.keys m, key ∉ reservedFields) ∧ stored = out.insertAll m := by
  induction m generalizing out with
  | nil => simp [spreadMetadata, Record.insertAll, eq_comm]
  | cons e m ih =>
    rw [spreadMetadata, Record.keys_cons, List.forall_mem_cons]
    split
    -- one reserved name stops the insertion, wherever it stands
    case isTrue hreserved =>
      have hmem : e.1 ∈ reservedFields := List.contains_iff_mem.1 hreserved
      refine iff_of_false (fun h => ?_) fun h => h.1.1 hmem
      cases h
    case isFalse hreserved =>
      have hnot : e.1 ∉ reservedFields := fun hmem =>
        hreserved (List.contains_iff_mem.2 hmem)
      rw [ih, and_iff_right hnot]
      rfl

/-- The fields of columns have the names of the columns. -/
theorem keys_of_storedAs {columns fields : Record} (h : List.Forall₂ StoredAs columns fields) :
    Record.keys fields = Record.keys columns := by
  induction h with
  | nil => rfl
  | cons hfield _ ih => rw [Record.keys_cons, Record.keys_cons, ih, hfield.name]

/-- Columns without a vector are stored as they are. -/
theorem eq_of_storedAs {columns fields : Record} (hvector : "embeddings" ∉ Record.keys columns)
    (h : List.Forall₂ StoredAs columns fields) : fields = columns := by
  induction h with
  | nil => rfl
  | cons hfield _ ih =>
    rw [Record.keys_cons, List.mem_cons, not_or] at hvector
    rw [ih hvector.2, Prod.ext hfield.name (hfield.value (Ne.symm hvector.1))]

/-- Distinct columns become distinct fields, none of which is the metadata. -/
theorem keys_fields {fields : Record} (hrow : (Record.keys row).Nodup)
    (h : List.Forall₂ StoredAs (columnsOf row) fields) :
    (Record.keys fields).Nodup ∧ "metadata" ∉ Record.keys fields := by
  rw [keys_of_storedAs h]
  refine ⟨hrow.sublist (List.filter_sublist.map _), fun hmem => ?_⟩
  obtain ⟨e, he, hname⟩ := List.mem_map.1 hmem
  -- the metadata was taken out of the columns, so no field has its name
  exact (by simpa using List.of_mem_filter he : e.1 ≠ "metadata") hname

/-- **The metadata of a row is spread over its columns.** -/
theorem prepareRow_spreads (hrow : (Record.keys row).Nodup) (hm : HasMetadata row m)
    (h : prepareRow row = .ok stored) :
    ∃ fields, List.Forall₂ StoredAs (columnsOf row) fields ∧
      spreadMetadata fields m = .ok stored := by
  unfold prepareRow at h
  obtain ⟨⟨out, found⟩, hcolumns, h⟩ := bind_eq_ok_iff.1 h
  have hnodup : (Record.keys ([] ++ row)).Nodup := hrow
  obtain ⟨⟨fields, hfields, hout⟩, hfound⟩ := prepared_of_prepareColumns hnodup hcolumns
  obtain rfl : out = fields := hout
  obtain ⟨given, hgiven, hgives⟩ := hm
  -- the metadata of the row is what the preparation has found
  rw [hgiven] at hfound
  obtain rfl : some m = found := Except.ok.inj ((metadataOf_of_gives hgives).symm.trans hfound)
  exact ⟨out, hfields, h⟩

/-- The keys of a metadata document are distinct, however it is given. -/
theorem nodup_keys_of_hasMetadata (hrow : (Json.object row).WellFormed) (h : HasMetadata row m) :
    (Record.keys m).Nodup := by
  obtain ⟨given, hgiven, hgives⟩ := h
  cases hgives with
  -- given as a value it is part of a well-formed row, given as a text it was read
  | value =>
    have hmem := Record.mem_of_get?_eq_some hgiven
    exact (Json.wellFormed_of_mem hrow hmem).1
  | text hread =>
    exact Json.nodup_keys_of_read? hread

/-! ### Calls -/

variable {σ : Type} {store : Store σ} {name : String} {rows : List Record} {s s' : σ}
  {log calls : List Call} {n : Nat}

/-- **Accepted rows have been prepared and sent in one call**, over one connection. -/
theorem insert_calls
    (h : (insert store.recording name rows).run.run (s, log) = (.ok n, s', calls)) :
    ∃ sent, List.Forall₂ (fun row stored => prepareRow row = .ok stored) rows sent ∧
      calls = log ++ [.connect, .insert name sent, .disconnect] := by
  unfold insert at h
  cases hsent : rows.mapM prepareRow with
  -- one row that cannot be prepared fails the insertion, which then has no result
  | error e =>
    rw [hsent] at h
    exact absurd (congrArg Prod.fst h) nofun
  | ok sent =>
    rw [hsent] at h
    have hcall := (store.withConnection_recording (.insert name sent) (store.insert name sent) s
      log).symm.trans h
    refine ⟨sent, mapM_eq_ok_iff.1 hsent, ?_⟩
    rw [Store.withConnection_run] at hcall
    -- what was accepted was accepted over a connection
    cases hconnect : (store.connect.run.run s).1 with
    | error e =>
      rw [hconnect] at hcall
      exact absurd (congrArg Prod.fst hcall) nofun
    | ok =>
      rw [hconnect] at hcall
      exact (congrArg (fun after => after.2.2) hcall).symm

end Pushdown.Collection
