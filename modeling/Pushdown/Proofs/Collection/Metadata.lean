import Pushdown.Proofs.Collection.Preparation

/-!
# Metadata comes back as it was inserted

On the way into the store metadata is spread among the columns, and on the way back everything that
is no column is folded into one document. For the two to cancel out, folding must tell the fields of
the columns from those of the metadata by their names. Spreading sees to this by refusing the
reserved names. But folding treats one more name apart: what stands under `$meta` is taken for a
document of further fields, and its entries for metadata.

So an entry of the metadata with this name is not read back, and neither is a column that folding
does not take for one (`Separable`). Of whatever else is accepted, columns and metadata come back
as they are, in their order. The main statement is `insert_readsBack_iff`.

Folding decides entry by entry, so it is two insertions, of the entries that stay `beside` the
metadata and of those that come `inside` (`foldEntries_eq`). That an entry `$meta` of the metadata
is never read back has one reason for all its values: it could only come from inside itself.
-/

namespace Pushdown.Collection

variable {columns stored m : Record} {e : String × Json}

/-! ### Specification -/

/-- **An entity read back**: the metadata as one document, the columns beside it. -/
def ReadsBack (columns m : Record) (entity : Json) : Prop :=
  ∃ fields : Record, entity = .object fields ∧ fields.get? "metadata" = some (.object m) ∧
    ∀ e ∈ columns, fields.get? e.1 = some e.2

/-- **A field that folding leaves beside the metadata**: one with a reserved name, or one under
`$meta` that is no document of further fields. -/
def StaysBeside (e : String × Json) : Prop :=
  e.1 ∈ reservedFields ∨ e.1 = "$meta" ∧ e.2 ≠ .null ∧ ∀ entries, e.2 ≠ .object entries

/-- **Columns and metadata that folding can tell apart.** -/
structure Separable (columns m : Record) : Prop where
  metadata : "$meta" ∉ Record.keys m
  columns : ∀ e ∈ columns, StaysBeside e

/-! ### Folding -/

/-- What a field comes to beside the metadata. -/
def beside (e : String × Json) : Record :=
  if e.1 = "metadata" ∨ e.1 = "$meta" then
    match e.2 with
    | .object _ => []
    | .null => []
    | _ => [e]
  else if reservedFields.contains e.1 then [e]
  else []

/-- What a field comes to inside the metadata. -/
def inside (e : String × Json) : Record :=
  if e.1 = "metadata" ∨ e.1 = "$meta" then
    match e.2 with
    | .object entries => entries
    | _ => []
  else if reservedFields.contains e.1 then []
  else [e]

/-- A field is inserted beside the metadata or inside it. -/
theorem foldEntries_cons (out metadata fields : Record) (e : String × Json) :
    foldEntries out metadata (e :: fields) =
      foldEntries (out.insertAll (beside e)) (metadata.insertAll (inside e)) fields := by
  obtain ⟨key, value⟩ := e
  unfold beside inside
  -- the two names of documents first, then the reserved ones, in the order of the tests
  by_cases hbag : key = "metadata" ∨ key = "$meta"
  · rw [if_pos hbag, if_pos hbag]
    cases value <;> simp only [foldEntries, if_pos hbag] <;> rfl
  · rw [if_neg hbag, if_neg hbag]
    simp only [foldEntries, if_neg hbag]
    split
    case isTrue => rfl
    case isFalse => rfl

/-- **Folding inserts fields beside the metadata and inside it.** -/
theorem foldEntries_eq (out metadata fields : Record) :
    foldEntries out metadata fields =
      (out.insertAll (fields.flatMap beside), metadata.insertAll (fields.flatMap inside)) := by
  -- field by field, into any two records that are there already
  induction fields generalizing out metadata with
  | nil => rfl
  | cons e fields ih =>
    rw [foldEntries_cons, ih, List.flatMap_cons, List.flatMap_cons]
    simp only [Record.insertAll, List.foldl_append]

/-- A field that stays beside the metadata is not inside. -/
theorem beside_of_staysBeside (hname : e.1 ≠ "metadata") (h : StaysBeside e) :
    beside e = [e] ∧ inside e = [] := by
  obtain ⟨key, value⟩ := e
  unfold beside inside
  rcases h with hreserved | ⟨hkey, hnull, hobject⟩
  · -- `$meta` is not reserved and `metadata` is excluded, so neither document is meant
    have hbag : ¬ (key = "metadata" ∨ key = "$meta") := by
      rintro (h | rfl)
      · exact hname h
      · have hnot : "$meta" ∉ reservedFields := by decide
        exact hnot hreserved
    have hcontains : reservedFields.contains key = true := List.contains_iff_mem.2 hreserved
    rw [if_neg hbag, if_neg hbag, if_pos hcontains, if_pos hcontains]
    exact ⟨rfl, rfl⟩
  · rw [if_pos (.inr hkey), if_pos (.inr hkey)]
    -- what is no document and not null stays, under the name of one too
    cases value with
    | null => exact absurd rfl hnull
    | object entries => exact absurd rfl (hobject entries)
    | bool | number | string | array => exact ⟨rfl, rfl⟩

/-- A field of another name is inside the metadata. -/
theorem inside_of_notMem (hreserved : e.1 ∉ reservedFields) (hmeta : e.1 ≠ "$meta") :
    beside e = [] ∧ inside e = [e] := by
  have hbag : ¬ (e.1 = "metadata" ∨ e.1 = "$meta") := by
    rintro (h | h)
    · exact hreserved (h ▸ by decide)
    · exact hmeta h
  have hcontains : ¬ reservedFields.contains e.1 = true := fun hcontains =>
    hreserved (List.contains_iff_mem.1 hcontains)
  unfold beside inside
  rw [if_neg hbag, if_neg hbag, if_neg hcontains, if_neg hcontains]
  exact ⟨rfl, rfl⟩

/-- What is beside the metadata is a field that stayed there. -/
theorem staysBeside_of_mem_beside {e' : String × Json} (h : e' ∈ beside e) :
    e' = e ∧ (e.1 = "metadata" ∨ StaysBeside e) := by
  obtain ⟨key, value⟩ := e
  unfold beside at h
  split at h
  case isTrue hbag =>
    cases value with
    | null | object => exact absurd h List.not_mem_nil
    -- a document that is none stays as it is: under `metadata`, or under `$meta`
    | bool | number | string | array =>
      refine ⟨List.mem_singleton.1 h, hbag.imp_right fun hkey => .inr ⟨hkey, ?_, ?_⟩⟩
      · nofun
      · nofun
  case isFalse =>
    split at h
    case isTrue hreserved =>
      exact ⟨List.mem_singleton.1 h, .inr (.inl (by simpa using hreserved))⟩
    case isFalse => exact absurd h List.not_mem_nil

/-- What is inside the metadata under `$meta` comes from inside a document: as a field of its own
it would have been taken for one. -/
theorem exists_of_meta_mem_inside {value : Json} (h : ("$meta", value) ∈ inside e) :
    ∃ entries, (e.1 = "metadata" ∨ e.1 = "$meta") ∧ e.2 = .object entries ∧
      ("$meta", value) ∈ entries := by
  obtain ⟨key, v⟩ := e
  unfold inside at h
  split at h
  case isTrue hbag =>
    cases v with
    | object entries => exact ⟨entries, hbag, rfl, h⟩
    | null | bool | number | string | array => exact absurd h List.not_mem_nil
  case isFalse hbag =>
    split at h
    case isTrue => exact absurd h List.not_mem_nil
    case isFalse =>
      -- another name came inside as itself, but `$meta` would have been taken for a document
      obtain rfl : "$meta" = key := congrArg Prod.fst (List.mem_singleton.1 h)
      exact absurd (.inr rfl) hbag

/-! ### Spreading and folding -/

theorem foldMetadata_object (fields : Record) :
    foldMetadata (.object fields) = .object
      (if (Record.ofList (fields.flatMap inside)).isEmpty then
        Record.ofList (fields.flatMap beside)
      else (Record.ofList (fields.flatMap beside)).insert "metadata"
        (.object (Record.ofList (fields.flatMap inside)))) := by
  rw [foldMetadata, foldEntries_eq]
  rfl

/-- **An entity that is read back** has its columns beside the metadata and all of its metadata
inside. -/
theorem ReadsBack.entries (hname : "metadata" ∉ Record.keys columns)
    (h : ReadsBack columns m (foldMetadata (.object stored))) :
    (∀ e ∈ columns, e ∈ stored.flatMap beside) ∧ m = Record.ofList (stored.flatMap inside) := by
  have hmem {key : String} {v : Json} {es : Record} (h : (Record.ofList es).get? key = some v) :
      (key, v) ∈ es :=
    (Record.mem_insertAll (Record.mem_of_get?_eq_some h)).resolve_left List.not_mem_nil
  obtain ⟨fields, hfields, hmeta, hcolumns⟩ := h
  rw [foldMetadata_object] at hfields
  obtain rfl := Json.object.inj hfields
  split at hmeta
  case isTrue =>
    -- a document under this name is never beside the metadata
    obtain ⟨e, -, he⟩ := List.mem_flatMap.1 (hmem hmeta)
    obtain rfl := (staysBeside_of_mem_beside he).1
    exact absurd he List.not_mem_nil
  case isFalse hne =>
    -- there is metadata, and it was inserted last, so the columns are found as they were put beside
    rw [Record.get?_insert, if_pos rfl] at hmeta
    refine ⟨fun e he => hmem ?_, (Json.object.inj (Option.some.inj hmeta)).symm⟩
    have hkey : "metadata" ≠ e.1 := fun heq => hname (heq ▸ List.mem_map_of_mem he)
    have hget := hcolumns e he
    rwa [if_neg hne, Record.get?_insert, if_neg hkey] at hget

/-- A document does not stand inside itself. -/
theorem notMem_of_object {key : String} {entries : Record} :
    (key, Json.object entries) ∉ entries := by
  intro h
  -- a value is larger than everything in it
  have hentry : sizeOf (key, Json.object entries) < sizeOf entries := List.sizeOf_lt_of_mem h
  rw [Prod.mk.sizeOf_spec, Json.object.sizeOf_spec] at hentry
  omega

section

variable (hcolumns : (Record.keys columns).Nodup) (hname : "metadata" ∉ Record.keys columns)
  (hm : (Record.keys m).Nodup) (hspread : spreadMetadata columns m = .ok stored)

include hcolumns hname hm hspread

/-- **What can be told apart is told apart**: folding undoes spreading. -/
theorem foldMetadata_of_separable (hne : m ≠ []) (h : Separable columns m) :
    foldMetadata (.object stored) = .object (columns ++ [("metadata", .object m)]) := by
  obtain ⟨hreserved, rfl⟩ := spreadMetadata_eq_ok_iff.1 hspread
  have hdynamic (e) (he : e ∈ m) : beside e = [] ∧ inside e = [e] := by
    have hkey : e.1 ∈ Record.keys m := List.mem_map_of_mem he
    exact inside_of_notMem (hreserved _ hkey) fun heq => h.metadata (heq ▸ hkey)
  have hfixed (e) (he : e ∈ columns) : beside e = [e] ∧ inside e = [] :=
    beside_of_staysBeside (fun heq => hname (heq ▸ List.mem_map_of_mem he)) (h.columns e he)
  -- no entry of the metadata takes the place of a column, so it stands behind the columns
  have hdisjoint : (Record.keys (columns ++ m)).Nodup := by
    rw [Record.keys_append, List.nodup_append]
    refine ⟨hcolumns, hm, ?_⟩
    rintro key hkey _ hkey' rfl
    obtain ⟨e, he, rfl⟩ := List.mem_map.1 hkey
    rcases h.columns e he with hmem | ⟨hmeta, -⟩
    · exact hreserved _ hkey' hmem
    · exact h.metadata (hmeta ▸ hkey')
  -- so the fields of the columns come first, and each list is put together from one part
  have hbeside : (columns ++ m).flatMap beside = columns := by
    rw [List.flatMap_append, List.flatMap_congr fun e he => (hfixed e he).1,
      List.flatMap_congr fun e he => (hdynamic e he).1]
    simp
  have hinside : (columns ++ m).flatMap inside = m := by
    rw [List.flatMap_append, List.flatMap_congr fun e he => (hfixed e he).2,
      List.flatMap_congr fun e he => (hdynamic e he).2]
    simp
  rw [Record.insertAll_of_nodup hdisjoint, foldMetadata_object, hbeside, hinside,
    Record.ofList_of_nodup hcolumns, Record.ofList_of_nodup hm, if_neg (by simpa using hne),
    Record.insert_of_notMem hname]

/-- **What is read back was told apart.** -/
theorem separable_of_readsBack (h : ReadsBack columns m (foldMetadata (.object stored))) :
    Separable columns m := by
  obtain ⟨hbeside, hinside⟩ := h.entries hname
  obtain ⟨hreserved, rfl⟩ := spreadMetadata_eq_ok_iff.1 hspread
  refine ⟨fun hmem => ?_, fun e he => ?_⟩
  · -- the entry comes from inside a document, which can only be its own value
    obtain ⟨⟨-, value⟩, hvalue, rfl⟩ := List.mem_map.1 hmem
    have hsource : ("$meta", value) ∈ (columns.insertAll m).flatMap inside := by
      rw [hinside] at hvalue
      exact (Record.mem_insertAll hvalue).resolve_left List.not_mem_nil
    obtain ⟨⟨key, v⟩, he, hsource⟩ := List.mem_flatMap.1 hsource
    obtain ⟨entries, hkey, rfl, hentries⟩ := exists_of_meta_mem_inside hsource
    -- only a document comes apart, and `metadata` is neither a column nor in the metadata
    rcases hkey with rfl | rfl
    · rcases Record.mem_insertAll he with he | he
      · exact hname (List.mem_map_of_mem he)
      · have hmem : "metadata" ∈ reservedFields := by decide
        exact hreserved _ (List.mem_map_of_mem he) hmem
    · -- the entity has one field of this name, so the document is the value of the entry
      have hget := Record.get?_insertAll (r := columns) hm "$meta"
      rw [Record.get?_of_mem hm hvalue,
        Record.get?_of_mem (Record.nodup_keys_insertAll hcolumns m) he] at hget
      obtain rfl : Json.object entries = value := Option.some.inj hget
      exact notMem_of_object hentries
  · -- a column that was read back was left beside, and it is not the document
    obtain ⟨e', -, he'⟩ := List.mem_flatMap.1 (hbeside e he)
    obtain ⟨rfl, hkey | hstays⟩ := staysBeside_of_mem_beside he'
    · exact absurd (hkey ▸ List.mem_map_of_mem he) hname
    · exact hstays

end

/-! ### Insertion -/

/-- **The metadata of a row reads back exactly if it can be told from the columns**, and then
nothing else is read back, and all stands in its order. -/
theorem prepareRow_readsBack_iff {row : Record} (hrow : (Json.object row).WellFormed)
    (hne : m ≠ []) (hm : HasMetadata row m) (h : prepareRow row = .ok stored) :
    ∃ columns, List.Forall₂ StoredAs (columnsOf row) columns ∧
      (ReadsBack columns m (foldMetadata (.object stored)) ↔ Separable columns m) ∧
      (Separable columns m →
        foldMetadata (.object stored) = .object (columns ++ [("metadata", .object m)])) := by
  obtain ⟨columns, hstored, hspread⟩ := prepareRow_spreads hrow.1 hm h
  obtain ⟨hcolumns, hname⟩ := keys_fields hrow.1 hstored
  have hkeys := nodup_keys_of_hasMetadata hrow hm
  have hfold := foldMetadata_of_separable hcolumns hname hkeys hspread hne
  refine ⟨columns, hstored, ⟨?_, fun hsep => ?_⟩, hfold⟩
  · exact separable_of_readsBack hcolumns hname hkeys hspread
  · -- the document comes last, under a name that no column has
    have hall : (Record.keys (columns ++ [("metadata", .object m)])).Nodup := by
      rw [Record.keys_append, List.nodup_append]
      refine ⟨hcolumns, List.nodup_cons.2 ⟨List.not_mem_nil, .nil⟩, ?_⟩
      rintro key hkey _ hkey' rfl
      obtain rfl : key = "metadata" := List.mem_singleton.1 hkey'
      exact hname hkey
    refine ⟨_, hfold hsep, Record.get?_of_mem hall ?_, fun e he => Record.get?_of_mem hall ?_⟩
    · exact List.mem_append_right _ List.mem_cons_self
    · exact List.mem_append_left _ he

section

variable {σ : Type} {store : Store σ} {name : String} {rows : List Record} {s s' : σ} {n : Nat}
  {calls : List Call}

/-- **Inserted metadata reads back exactly if folding can tell it from the columns.** Rows that are
accepted have been sent to the store in one call. Whatever metadata one of them has, if the store
returns the entity as it was sent, metadata and columns are read back exactly if they can be told
apart, and then nothing else is read back, and all stands in its order. -/
theorem insert_readsBack_iff (hrows : ∀ row ∈ rows, (Json.object row).WellFormed)
    (h : (insert store.recording name rows).run.run (s, []) = (.ok n, s', calls)) :
    ∃ sent, calls = [.connect, .insert name sent, .disconnect] ∧
      List.Forall₂ (fun row stored => ∀ m, m ≠ [] → HasMetadata row m →
        ∃ columns, List.Forall₂ StoredAs (columnsOf row) columns ∧
          (ReadsBack columns m (foldMetadata (.object stored)) ↔ Separable columns m) ∧
          (Separable columns m →
            foldMetadata (.object stored) = .object (columns ++ [("metadata", .object m)])))
        rows sent := by
  obtain ⟨sent, hsent, rfl⟩ := insert_calls h
  -- every accepted row was prepared, and that is all the statement about it needs
  refine ⟨sent, rfl, ((List.forall₂_and_left rows sent).2 ⟨hrows, hsent⟩).imp ?_⟩
  rintro row stored ⟨hrow, hprepared⟩ m hne hm
  exact prepareRow_readsBack_iff hrow hne hm hprepared

end

/-- A store that accepts everything and holds nothing. -/
def acceptingStore : Store Unit where
  connect := pure ()
  disconnect := pure ()
  query _ := pure (.ok [])
  insert _ records := pure (.ok records.length)
  delete _ _ := pure (.ok 0)

/-- A row of a collection with metadata as a text. -/
def taggedRow : Record :=
  [("id", .ofInt 7), ("metadata", "\x7b\"tag\": \"c\", \"price\": 3\x7d"), ("content", "text")]

/-- The metadata of the row. -/
def taggedMetadata : Record := [("tag", "c"), ("price", .ofInt 3)]

/-- The columns of the row beside its metadata. -/
def taggedColumns : Record := [("id", .ofInt 7), ("content", "text")]

/-- **Metadata that was given as a text is read back as a document**, behind the columns. -/
theorem taggedRow_readsBack :
    (insert acceptingStore.recording "docs" [taggedRow]).run.run ((), []) =
      (.ok 1, (), [.connect, .insert "docs" [taggedColumns ++ taggedMetadata], .disconnect]) ∧
    foldMetadata (.object (taggedColumns ++ taggedMetadata)) = .object
      (taggedColumns ++ [("metadata", .object taggedMetadata)]) := by
  have hprepared : [taggedRow].mapM prepareRow = .ok [taggedColumns ++ taggedMetadata] :=
    eq_ok_of_toOption (by decide +kernel)
  have hrun : (insert acceptingStore.recording "docs" [taggedRow]).run.run ((), []) =
      (.ok 1, (), [.connect, .insert "docs" [taggedColumns ++ taggedMetadata], .disconnect]) := by
    unfold insert
    rw [hprepared]
    rfl
  have hrows : ∀ row ∈ [taggedRow], (Json.object row).WellFormed := by
    simp [taggedRow, Json.WellFormed, Json.WellFormedEntries, Json.ofInt, Record.keys]
  have hmetadata : HasMetadata taggedRow taggedMetadata :=
    ⟨_, rfl, .text (by decide +kernel)⟩
  -- the theorem on the one row gives its fields and what folding makes of them
  obtain ⟨sent, hcalls, hsent⟩ := insert_readsBack_iff hrows hrun
  obtain rfl : [taggedColumns ++ taggedMetadata] = sent := by
    simpa using hcalls
  obtain ⟨columns, hstored, -, hfold⟩ :=
    (List.forall₂_cons.1 hsent).1 taggedMetadata (by decide) hmetadata
  have hcolumns : columnsOf taggedRow = taggedColumns := by decide +kernel
  rw [hcolumns] at hstored
  obtain rfl := eq_of_storedAs (by decide) hstored
  refine ⟨hrun, hfold ⟨by decide, ?_⟩⟩
  simp [taggedColumns, StaysBeside, reservedFields]

/-- Metadata with an entry under the name of a document of further fields. -/
def nestedMetadata : Record := [("$meta", .object [("a", .ofInt 1)])]

/-- A row with this metadata. -/
def nestedRow : Record := [("id", .ofInt 1), ("metadata", .object nestedMetadata)]

/-- **Metadata under `$meta` is accepted and not read back**: its entries take its place. -/
theorem nestedRow_not_readsBack :
    (insert acceptingStore.recording "docs" [nestedRow]).run.run ((), []) =
      (.ok 1, (), [.connect, .insert "docs" [("id", .ofInt 1) :: nestedMetadata], .disconnect]) ∧
    HasMetadata nestedRow nestedMetadata ∧
    foldMetadata (.object (("id", .ofInt 1) :: nestedMetadata)) =
      .object [("id", .ofInt 1), ("metadata", .object [("a", .ofInt 1)])] ∧
    ¬ ReadsBack [("id", .ofInt 1)] nestedMetadata
      (foldMetadata (.object (("id", .ofInt 1) :: nestedMetadata))) := by
  have hfold : foldMetadata (.object (("id", .ofInt 1) :: nestedMetadata)) =
      .object [("id", .ofInt 1), ("metadata", .object [("a", .ofInt 1)])] := by decide +kernel
  refine ⟨rfl, ⟨_, rfl, .value _⟩, hfold, ?_⟩
  -- what is read back has `a` in place of the document, so the two metadata differ
  rintro ⟨fields, hfields, hmeta, -⟩
  obtain rfl := Json.object.inj (hfold.symm.trans hfields)
  have hne : Record.get? [("id", .ofInt 1), ("metadata", .object [("a", .ofInt 1)])] "metadata" ≠
      some (.object nestedMetadata) := by decide +kernel
  exact hne hmeta

end Pushdown.Collection
