import Pushdown.Proofs.Collection.Preparation

/-!
# What entities reach the store

Rows are prepared before there is a connection, so whatever the store comes to hold has passed the
checks of the preparation (`prepareRow_of_insert_mem`). This file says what these checks see to.

Two fields never reach the store. Metadata is spread and not sent, and a distance is refused; under
either name no entry of the metadata can come in, since the names of fields are reserved. What is
sent as a vector is an array that the row gives. But the items of the array are not looked at, and
of the names of columns only those of the fields are reserved: a row may have a further column, and
an entry of its metadata with the same name takes its place.

The main statement, `insert_faithful_iff`, says that an entity is what its row should become
(`Faithful`) exactly if the vector of the row has numbers only and no entry of its metadata gives
another value to one of its columns. After the insertion of the metadata a field has the value of
the entry of its name, if there is one, and that of the column otherwise; so each of the two
conditions is that of one field.
-/

namespace Pushdown.Collection

variable {row out stored fields m : Record} {given v w : Json}

/-! ### Specification -/

/-- **An entity that is what a row should become.** -/
structure Faithful (row stored : Record) : Prop where
  /-- Metadata is spread, and not sent as it is. -/
  metadata : "metadata" ∉ Record.keys stored
  /-- A distance is for the store to compute. -/
  distance : "distance" ∉ Record.keys stored
  /-- A vector is an array of numbers. -/
  vector : ∀ v, stored.get? "embeddings" = some v →
    ∃ items, v = .array items ∧ ∀ item ∈ items, item.isNumber = true
  /-- Every other column has its value. -/
  columns : ∀ e ∈ row, e.1 ≠ "metadata" → e.1 ≠ "embeddings" → stored.get? e.1 = some e.2

/-- **The vector of a row has numbers only**, however it is given. -/
def NumericVector (row : Record) : Prop :=
  ∀ given items, row.get? "embeddings" = some given → Gives given (.array items) →
    ∀ item ∈ items, item.isNumber = true

/-- **No entry of the metadata gives another value to a column.** -/
def Undisturbed (row : Record) : Prop :=
  ∀ m, HasMetadata row m → ∀ e ∈ row, e.1 ≠ "metadata" → e.1 ≠ "embeddings" →
    ∀ v, m.get? e.1 = some v → v = e.2

/-! ### Preparation -/

/-- A row with a distance is not accepted. -/
theorem distance_notMem_of_prepareColumns {found found' : Option Record}
    (h : prepareColumns out found row = .ok (stored, found')) : "distance" ∉ Record.keys row := by
  -- on the columns: one with this name ends the preparation at once
  induction row generalizing out found with
  | nil => exact List.not_mem_nil
  | cons e row ih =>
    rw [Record.keys_cons, List.mem_cons, not_or]
    rw [prepareColumns] at h
    split at h
    case isTrue => cases h
    case isFalse hname =>
      refine ⟨Ne.symm hname, ?_⟩
      -- all other columns are followed by the rest of the row
      split at h
      case isTrue =>
        obtain ⟨_, -, h⟩ := bind_eq_ok_iff.1 h
        exact ih h
      case isFalse =>
        split at h
        case isTrue =>
          obtain ⟨_, -, h⟩ := bind_eq_ok_iff.1 h
          exact ih h
        case isFalse => exact ih h

/-- The document in a metadata column is what the column gives. -/
theorem gives_of_metadataOf (h : metadataOf given = .ok (some m)) : Gives given (.object m) := by
  unfold metadataOf at h
  obtain ⟨v, hv, h⟩ := bind_eq_ok_iff.1 h
  cases v with
  | object entries =>
    obtain rfl := Option.some.inj (Except.ok.inj h)
    exact gives_of_decoded hv
  | null | bool | number | string | array => exact absurd h nofun

/-- Nothing gives two values that are no texts. -/
theorem Gives.unique (hv : v.isString = false) (hw : w.isString = false) (h : Gives given v)
    (h' : Gives given w) : v = w := by
  -- texts are looked into, so only values that are none are determined
  have hdecoded : decoded "embeddings" "array of numbers" given = .ok v := decoded_of_gives hv h
  exact Except.ok.inj (hdecoded.symm.trans (decoded_of_gives hw h'))

/-- **A row as an entity**: its columns as fields, with its metadata inserted, if it has any. -/
structure Spread (row fields m stored : Record) : Prop where
  columns : List.Forall₂ StoredAs (columnsOf row) fields
  distance : "distance" ∉ Record.keys row
  metadata : ∀ m', HasMetadata row m' → m' = m
  given : m = [] ∨ HasMetadata row m
  reserved : ∀ key ∈ Record.keys m, key ∉ reservedFields
  inserted : stored = fields.insertAll m

/-- **What is accepted has been spread**, with metadata and without. -/
theorem exists_spread_of_prepareRow (hrow : (Record.keys row).Nodup)
    (h : prepareRow row = .ok stored) : ∃ fields m, Spread row fields m stored := by
  unfold prepareRow at h
  obtain ⟨⟨fields, found⟩, hcolumns, h⟩ := bind_eq_ok_iff.1 h
  have hdistance := distance_notMem_of_prepareColumns hcolumns
  have hnodup : (Record.keys ([] ++ row)).Nodup := hrow
  obtain ⟨⟨fields, hfields, rfl⟩, hfound⟩ := prepared_of_prepareColumns hnodup hcolumns
  have hgiven {given : Json} (hget : row.get? "metadata" = some given) :
      metadataOf given = .ok found := by
    rwa [hget] at hfound
  have hunique {m : Record} (hm : HasMetadata row m) : found = some m := by
    obtain ⟨given, hget, hgives⟩ := hm
    exact Except.ok.inj ((hgiven hget).symm.trans (metadataOf_of_gives hgives))
  cases found with
  -- no metadata was found, and none is inserted
  | none =>
    refine ⟨fields, [], hfields, hdistance, fun m hm => ?_, .inl rfl, nofun, ?_⟩
    · exact absurd (hunique hm) nofun
    · exact (Except.ok.inj h).symm
  -- metadata was found, and its keys were checked before it was inserted
  | some m =>
    obtain ⟨hreserved, hstored⟩ := spreadMetadata_eq_ok_iff.1 h
    refine ⟨fields, m, hfields, hdistance, fun m' hm' => ?_, .inr ?_, hreserved, hstored⟩
    · exact (Option.some.inj (hunique hm')).symm
    · -- metadata that was found is that of the column for it
      cases hget : row.get? "metadata" with
      | none =>
        rw [hget] at hfound
        exact absurd hfound nofun
      | some given => exact ⟨given, hget, gives_of_metadataOf (hgiven hget)⟩

/-! ### Fields -/

/-- Columns and fields that are related one by one, found under their names. -/
theorem get?_of_storedAs {columns : Record} (h : List.Forall₂ StoredAs columns fields)
    (name : String) : Option.Rel (fun given v => StoredAs (name, given) (name, v))
      (columns.get? name) (fields.get? name) := by
  induction h with
  | nil => exact .none
  | @cons e field columns fields hfield _ ih =>
    -- related entries have the same name, so a look-up stops at both or at neither
    rw [Record.get?_cons, Record.get?_cons, hfield.name]
    split
    case isTrue hname =>
      subst hname
      refine .some ?_
      have heq : field = (e.1, field.2) := Prod.ext hfield.name rfl
      rwa [heq] at hfield
    case isFalse => exact ih

/-- Columns beside the metadata are found as in the row. -/
theorem get?_columnsOf {name : String} (hname : name ≠ "metadata") :
    (columnsOf row).get? name = row.get? name := by
  have hfilter : columnsOf row = row.filter fun e => decide (e.1 ≠ "metadata") := rfl
  rw [hfilter, Record.get?_filter row (fun key => decide (key ≠ "metadata")), if_pos]
  exact decide_eq_true hname

namespace Spread

/-- A reserved name is that of no entry of the metadata. -/
theorem get?_metadata (h : Spread row fields m stored) {key : String}
    (hkey : key ∈ reservedFields) : m.get? key = none := by
  rw [← Option.not_isSome_iff_eq_none, Record.get?_isSome_iff]
  exact fun hmem => h.reserved key hmem hkey

/-- The keys of the metadata are distinct. -/
theorem nodup_keys (h : Spread row fields m stored) (hrow : (Json.object row).WellFormed) :
    (Record.keys m).Nodup := by
  rcases h.given with rfl | hm
  · exact List.nodup_nil
  · exact nodup_keys_of_hasMetadata hrow hm

/-- **A field of an entity** is an entry of the metadata, or the field of a column. -/
theorem get?_stored (h : Spread row fields m stored) (hrow : (Json.object row).WellFormed)
    (key : String) : stored.get? key = (m.get? key).or (fields.get? key) := by
  rw [h.inserted, Record.get?_insertAll (h.nodup_keys hrow)]

/-- Fields with a reserved name come from columns. -/
theorem notMem_keys (h : Spread row fields m stored) {key : String} (hkey : key ∈ reservedFields)
    (hcolumns : key ∉ Record.keys (columnsOf row)) : key ∉ Record.keys stored := by
  rw [h.inserted, Record.mem_keys_insertAll_iff, keys_of_storedAs h.columns, not_or]
  exact ⟨hcolumns, fun hmem => h.reserved key hmem hkey⟩

/-- **The vector of an entity** is the array that its row gives. -/
theorem get?_vector_iff (h : Spread row fields m stored) (hrow : (Json.object row).WellFormed) :
    stored.get? "embeddings" = some v ↔ ∃ given items, v = .array items ∧
      row.get? "embeddings" = some given ∧ Gives given (.array items) := by
  -- a reserved name is that of no entry of the metadata, so the column alone counts
  have hrel := get?_of_storedAs h.columns "embeddings"
  rw [get?_columnsOf (by decide)] at hrel
  rw [h.get?_stored hrow, h.get?_metadata (by decide), Option.none_or]
  generalize row.get? "embeddings" = column at hrel
  generalize fields.get? "embeddings" = field at hrel
  cases hrel with
  -- no column for a vector: nothing is stored and nothing was given
  | none => exact iff_of_false nofun fun ⟨_, _, _, hnone, _⟩ => absurd hnone nofun
  | @some given field hfield =>
    obtain ⟨hgives, items, rfl⟩ := hfield.vector rfl
    constructor
    · intro heq
      exact ⟨given, items, (Option.some.inj heq).symm, rfl, hgives⟩
    · rintro ⟨_, items', rfl, ⟨⟩, hgives'⟩
      rw [Gives.unique rfl rfl hgives' hgives]

/-- **A column keeps its value** exactly if no entry of the metadata gives it another. -/
theorem get?_column_iff (h : Spread row fields m stored) (hrow : (Json.object row).WellFormed)
    {e : String × Json} (he : e ∈ row) (hmetadata : e.1 ≠ "metadata")
    (hvector : e.1 ≠ "embeddings") :
    stored.get? e.1 = some e.2 ↔ ∀ v, m.get? e.1 = some v → v = e.2 := by
  have hrel := get?_of_storedAs h.columns e.1
  rw [get?_columnsOf hmetadata, Record.get?_of_mem hrow.1 he] at hrel
  rw [h.get?_stored hrow]
  generalize fields.get? e.1 = field at hrel
  cases hrel with | @some _ value hfield => ?_
  -- a column other than the vector is stored as it was given
  obtain rfl : value = e.2 := hfield.value hvector
  cases m.get? e.1 with
  | none => exact iff_of_true rfl nofun
  | some v => simp

end Spread

/-! ### Insertion -/

/-- **An accepted row is what it should become in the store exactly if its vector has numbers only
and its metadata leaves its columns alone.** In any case neither metadata nor a distance is among
its fields, and its vector is the array that the row gives. -/
theorem prepareRow_faithful_iff (hrow : (Json.object row).WellFormed)
    (h : prepareRow row = .ok stored) :
    ("metadata" ∉ Record.keys stored ∧ "distance" ∉ Record.keys stored ∧
      ∀ v, stored.get? "embeddings" = some v ↔ ∃ given items, v = .array items ∧
        row.get? "embeddings" = some given ∧ Gives given (.array items)) ∧
    (Faithful row stored ↔ NumericVector row ∧ Undisturbed row) := by
  obtain ⟨fields, m, hspread⟩ := exists_spread_of_prepareRow hrow.1 h
  have hmetadata : "metadata" ∉ Record.keys stored :=
    hspread.notMem_keys (by decide) (by simp [columnsOf, Record.keys])
  have hdistance : "distance" ∉ Record.keys stored := by
    refine hspread.notMem_keys (by decide) fun hmem => hspread.distance ?_
    exact (List.filter_sublist.map Prod.fst).subset hmem
  have hvector (v : Json) := hspread.get?_vector_iff hrow (v := v)
  refine ⟨⟨hmetadata, hdistance, hvector⟩, ?_⟩
  constructor
  · intro hfaithful
    constructor
    · -- `stored` is what tells of the items, and it holds those that the row gives
      intro given items hget hgives
      obtain ⟨items', heq, hnumbers⟩ := hfaithful.vector _ ((hvector _).2
        ⟨given, items, rfl, hget, hgives⟩)
      rwa [Json.array.inj heq]
    · -- the metadata of a row is determined, so any `m'` is the one that was spread
      intro m' hm' e he hname hvector
      rw [hspread.metadata m' hm']
      exact (hspread.get?_column_iff hrow he hname hvector).1
        (hfaithful.columns e he hname hvector)
  · rintro ⟨hnumeric, hundisturbed⟩
    refine ⟨hmetadata, hdistance, fun v hv => ?_, fun e he hname hvector => ?_⟩
    · obtain ⟨given, items, rfl, hget, hgives⟩ := (hvector v).1 hv
      exact ⟨items, rfl, hnumeric given items hget hgives⟩
    · refine (hspread.get?_column_iff hrow he hname hvector).2 fun v hv => ?_
      -- without metadata there is no entry to disturb a column
      rcases hspread.given with rfl | hm
      · cases hv
      · exact hundisturbed m hm e he hname hvector v hv

section

variable {σ : Type} {store : Store σ} {name collection : String} {rows sent : List Record} {s : σ}

/-- **Whatever is sent has been prepared**, whether it is then accepted or not. -/
theorem prepareRow_of_insert_mem
    (h : .insert collection sent ∈ ((insert store.recording name rows).run.run (s, [])).2.2) :
    collection = name ∧ List.Forall₂ (fun row stored => prepareRow row = .ok stored) rows sent := by
  unfold insert at h
  -- if one row cannot be prepared, nothing is written down at all
  cases hprepared : rows.mapM prepareRow with
  | error e =>
    rw [hprepared] at h
    exact absurd h List.not_mem_nil
  | ok prepared =>
    rw [hprepared] at h
    have hcalls := congrArg (fun after => after.2.2)
      (store.withConnection_recording (.insert name prepared) (store.insert name prepared) s [])
    have hmem := hcalls ▸ h
    -- the only insertion is between the connection and its end
    have hcall : Call.insert collection sent = .insert name prepared := by
      dsimp only at hmem
      split at hmem
      case h_1 => simpa using hmem
      case h_2 => simp at hmem
    obtain ⟨rfl, rfl⟩ := Call.insert.inj hcall
    exact ⟨rfl, mapM_eq_ok_iff.1 hprepared⟩

/-- **What reaches the store.** Rows that are sent are sent to the collection, one entity for each,
in their order. No entity has a field for metadata or for a distance, and its vector is the array
that its row gives. It is what its row should become exactly if the items of this array are numbers
and no entry of the row's metadata gives another value to one of its columns. -/
theorem insert_faithful_iff (hrows : ∀ row ∈ rows, (Json.object row).WellFormed)
    (h : .insert collection sent ∈ ((insert store.recording name rows).run.run (s, [])).2.2) :
    collection = name ∧
    List.Forall₂ (fun row stored =>
      ("metadata" ∉ Record.keys stored ∧ "distance" ∉ Record.keys stored ∧
        ∀ v, stored.get? "embeddings" = some v ↔ ∃ given items, v = .array items ∧
          row.get? "embeddings" = some given ∧ Gives given (.array items)) ∧
      (Faithful row stored ↔ NumericVector row ∧ Undisturbed row)) rows sent := by
  obtain ⟨rfl, hsent⟩ := prepareRow_of_insert_mem h
  refine ⟨rfl, ((List.forall₂_and_left rows sent).2 ⟨hrows, hsent⟩).imp ?_⟩
  rintro row stored ⟨hrow, hprepared⟩
  exact prepareRow_faithful_iff hrow hprepared

end

/-- A store that can be connected to and takes no records. -/
def fullStore : Store Unit where
  connect := pure ()
  disconnect := pure ()
  query _ := pure (.ok [])
  insert _ _ := pure (.error (.protocol "the collection is full"))
  delete _ _ := pure (.ok 0)

/-- A row whose vector and metadata are given as texts. -/
def writtenRow : Record :=
  [("id", .ofInt 7), ("metadata", "\x7b\"tag\": \"c\"\x7d"), ("embeddings", "[1, -2]"),
    ("content", "text")]

/-- What the row should become. -/
def writtenEntity : Record :=
  [("id", .ofInt 7), ("embeddings", .array [.ofInt 1, .ofInt (-2)]), ("content", "text"),
    ("tag", "c")]

/-- **Texts for a vector of numbers and for metadata are taken apart**, also if the store then
refuses the entity. -/
theorem insert_faithful_writtenRow :
    (insert fullStore.recording "docs" [writtenRow]).run.run ((), []) =
      (.error (.remoteFetch 0 0 (.protocol "the collection is full")), (),
        [.connect, .insert "docs" [writtenEntity], .disconnect]) ∧
    Faithful writtenRow writtenEntity := by
  -- both texts are taken apart by evaluation
  have hprepared : [writtenRow].mapM prepareRow = .ok [writtenEntity] :=
    eq_ok_of_toOption (by decide +kernel)
  have hrun : (insert fullStore.recording "docs" [writtenRow]).run.run ((), []) =
      (.error (.remoteFetch 0 0 (.protocol "the collection is full")), (),
        [.connect, .insert "docs" [writtenEntity], .disconnect]) := by
    unfold insert
    rw [hprepared]
    rfl
  have hrows : ∀ row ∈ [writtenRow], (Json.object row).WellFormed := by
    simp [writtenRow, Json.WellFormed, Json.WellFormedEntries, Json.ofInt, Record.keys]
  have hvector : Json.read? "[1, -2]" = some (.array [.ofInt 1, .ofInt (-2)]) := by decide +kernel
  have hmetadata : Json.read? "\x7b\"tag\": \"c\"\x7d" = some (.object [("tag", "c")]) := by
    decide +kernel
  have hnumeric : NumericVector writtenRow := by
    rintro given items ⟨⟩ hgives
    obtain rfl := Json.array.inj (hgives.unique rfl rfl (.text hvector))
    decide
  have hundisturbed : Undisturbed writtenRow := by
    rintro m ⟨given, ⟨⟩, hgives⟩
    obtain rfl := Json.object.inj (hgives.unique rfl rfl (.text hmetadata))
    decide
  have hmem : Call.insert "docs" [writtenEntity] ∈
      ((insert fullStore.recording "docs" [writtenRow]).run.run ((), [])).2.2 := by
    rw [hrun]
    exact List.mem_cons_of_mem _ List.mem_cons_self
  obtain ⟨-, hsent⟩ := insert_faithful_iff hrows hmem
  exact ⟨hrun, (List.forall₂_cons.1 hsent).1.2.2 ⟨hnumeric, hundisturbed⟩⟩

/-- A row whose vector is a word. -/
def wordRow : Record := [("id", .ofInt 1), ("embeddings", "[\"a\"]")]

/-- A row with a further column, and metadata with an entry of the same name. -/
def clashingRow : Record := [("tag", "x"), ("metadata", .object [("tag", "y")])]

/-- **A vector of words is sent**, and so is the metadata in place of a column. -/
theorem insert_not_faithful :
    (insert fullStore.recording "docs" [wordRow, clashingRow]).run.run ((), []) =
      (.error (.remoteFetch 0 0 (.protocol "the collection is full")), (),
        [.connect,
          .insert "docs" [[("id", .ofInt 1), ("embeddings", .array ["a"])], [("tag", "y")]],
          .disconnect]) ∧
    ¬ Faithful wordRow [("id", .ofInt 1), ("embeddings", .array ["a"])] ∧
    ¬ Faithful clashingRow [("tag", "y")] := by
  have hprepared : [wordRow, clashingRow].mapM prepareRow =
      .ok [[("id", .ofInt 1), ("embeddings", .array ["a"])], [("tag", "y")]] :=
    eq_ok_of_toOption (by decide +kernel)
  refine ⟨?_, fun h => ?_, fun h => ?_⟩
  · unfold insert
    rw [hprepared]
    rfl
  · -- a word is no number, so the vector is not faithful
    obtain ⟨items, heq, hnumbers⟩ := h.vector (.array ["a"]) rfl
    obtain rfl := Json.array.inj heq
    exact absurd (hnumbers "a" List.mem_cons_self) (by decide)
  · -- the column has the value of the metadata, `y` in place of `x`
    have hvalue := h.columns ("tag", "x") List.mem_cons_self (by decide) (by decide)
    exact absurd (Json.string.inj (Option.some.inj hvalue)) (by decide)

end Pushdown.Collection
