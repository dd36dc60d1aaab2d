import Pushdown.Proofs.Collection.Metadata
import Pushdown.Proofs.Plan.Agreement
import Pushdown.Proofs.Plan.Planned
import Pushdown.Proofs.Rows.Unification
import Pushdown.Remote.Pipeline

/-!
# Fields that are not asked for

A collection asks its store for the fields that a plan reads, `outputFields`, and for no others. So
what comes back may be less than what is stored. The main statement is `finish_returned`: whenever a
plan has an answer on entities as they are stored, it has the same answer on entities of which the
store returns only what it was asked for.

There is one field for each column but two. All of the further fields make up one document, so any
path into the document asks for all of them; and the distance, which no request can name, is always
returned. An entity is looked at only after it has been folded, so that is where its fields are
compared: the two folded entities agree under the head of every column that was asked for
(`get?_folded_returned`), which is all that a look-up reads of a row (`lookup_congr`). So the rows
agree on the needed columns of the plan, and cannot be told apart (`Plan.complete_congr`).

The converse fails. A cell that is refused by the type of its column may belong to a field that was
not asked for, and without it there is an answer.
-/

namespace Pushdown

namespace Collection

/-! ### Heads of paths -/

theorem exists_pathSteps (path : String) : ∃ rest, pathSteps path = headOf path :: rest := by
  unfold pathSteps headOf
  rw [Text.splitOn_eq]
  cases Text.splitFirst '.' path.toList with
  | none => exact ⟨[], congrArg (· :: []) String.ofList_toList⟩
  | some parts => exact ⟨_, rfl⟩

variable {entity : Record} {hits : List Record} {fields columns : List String} {path field : String}

/-! ### Specification -/

/-- **An entity as it is stored**: its fields are distinct, and none of them has a name that folding
takes for a document of further fields. -/
structure IsEntity (entity : Record) : Prop where
  nodup : (Record.keys entity).Nodup
  metadata : "metadata" ∉ Record.keys entity
  further : "$meta" ∉ Record.keys entity

/-- **A field is returned** if it is the distance, or asked for by its name, or a further field and
all of these are asked for. -/
def Returned (fields : List String) (key : String) : Prop :=
  key = "distance" ∨ key ∈ fields ∨ furtherFields ∈ fields ∧ key ∉ reservedFields

instance (fields : List String) (key : String) : Decidable (Returned fields key) := by
  unfold Returned
  infer_instance

/-- **An entity as it is returned**, with the fields that were asked for. -/
def returned (fields : List String) (entity : Record) : Record :=
  entity.filter fun e => Returned fields e.1

/-! ### Folding -/

/-- The further fields of an entity. -/
def furtherOf (entity : Record) : Record := entity.filter fun e => !reservedFields.contains e.1

/-- The document of the further fields, if there are any. -/
def document? (entity : Record) : Option Json :=
  if (furtherOf entity).isEmpty then none else some (.object (furtherOf entity))

/-- **An entity folded**: the fields that are columns, and the document. -/
def folded (entity : Record) : Record :=
  entity.filter (fun e => reservedFields.contains e.1) ++
    (document? entity).toList.map (Prod.mk "metadata")

theorem flatMap_eq_filter {α : Type} {items : List α} {f : α → List α} {p : α → Bool}
    (h : ∀ a ∈ items, f a = if p a then [a] else []) : items.flatMap f = items.filter p := by
  induction items with
  | nil => rfl
  | cons a items ih =>
    obtain ⟨ha, hitems⟩ := List.forall_mem_cons.1 h
    rw [List.flatMap_cons, ha, ih hitems, List.filter_cons]
    split
    case isTrue => rfl
    case isFalse => rfl

theorem IsEntity.filter (h : IsEntity entity) (p : String × Json → Bool) :
    IsEntity (entity.filter p) := by
  have hsub : (Record.keys (entity.filter p)).Sublist (Record.keys entity) :=
    List.filter_sublist.map _
  exact ⟨h.nodup.sublist hsub, fun hmem => h.metadata (hsub.subset hmem),
    fun hmem => h.further (hsub.subset hmem)⟩

theorem IsEntity.returned (h : IsEntity entity) (fields : List String) :
    IsEntity (returned fields entity) := h.filter _

/-- **An entity is folded field by field.** -/
theorem foldMetadata_entity (h : IsEntity entity) :
    foldMetadata (.object entity) = .object (folded entity) := by
  -- the name of a field alone tells on which side it ends up
  have hparts (e) (he : e ∈ entity) :
      beside e = (if reservedFields.contains e.1 then [e] else []) ∧
        inside e = if !reservedFields.contains e.1 then [e] else [] := by
    have hkey : e.1 ∈ Record.keys entity := List.mem_map_of_mem he
    cases hreserved : reservedFields.contains e.1 with
    | true =>
      have hmem : e.1 ∈ reservedFields := List.contains_iff_mem.1 hreserved
      exact beside_of_staysBeside (fun heq => h.metadata (heq ▸ hkey)) (.inl hmem)
    | false =>
      have hnot : e.1 ∉ reservedFields := by simpa using hreserved
      exact inside_of_notMem hnot fun heq => h.further (heq ▸ hkey)
  -- no key is repeated, so making up a record from the parts leaves them as they are
  rw [foldMetadata_object, flatMap_eq_filter fun e he => (hparts e he).1,
    flatMap_eq_filter fun e he => (hparts e he).2, Record.ofList_of_nodup (h.filter _).nodup,
    Record.ofList_of_nodup (h.filter _).nodup, Record.insert_of_notMem (h.filter _).metadata]
  unfold folded document? furtherOf
  split
  case isTrue => exact congrArg Json.object (List.append_nil _).symm
  case isFalse => rfl

/-- **The fields of a folded entity**: the document, those that are columns, and no others. -/
theorem get?_folded (h : IsEntity entity) (column : String) :
    (folded entity).get? column =
      if column = "metadata" then document? entity
      else if reservedFields.contains column then entity.get? column else none := by
  unfold folded
  rw [Record.get?_append, Record.get?_filter entity (reservedFields.contains ·)]
  by_cases hcolumn : column = "metadata"
  · -- under the name of the document there is only the document
    subst hcolumn
    have hnone : entity.get? "metadata" = none := by
      rw [← Option.not_isSome_iff_eq_none, Record.get?_isSome_iff]
      exact h.metadata
    rw [hnone, ite_self, if_pos rfl]
    cases document? entity <;> rfl
  · -- any other name is not that of the document
    have hdocument :
        Record.get? ((document? entity).toList.map (Prod.mk "metadata")) column = none := by
      cases document? entity with
      | none => rfl
      | some document => exact (Record.get?_cons _ _ _).trans (if_neg (Ne.symm hcolumn))
    rw [hdocument, Option.or_none, if_neg hcolumn]

/-! ### Fields that are returned -/

theorem get?_returned (fields : List String) (entity : Record) (key : String) :
    (returned fields entity).get? key = if Returned fields key then entity.get? key else none := by
  refine (Record.get?_filter entity (fun key => decide (Returned fields key)) key).trans ?_
  simp only [decide_eq_true_eq]

/-- **A request for further fields gets all of them.** -/
theorem document?_returned (h : furtherFields ∈ fields) :
    document? (returned fields entity) = document? entity := by
  -- only fields that are not reserved are left in, and of these none was taken out
  have hall : furtherOf (returned fields entity) = furtherOf entity := by
    unfold furtherOf returned
    rw [List.filter_filter]
    refine List.filter_congr fun e _ => ?_
    cases hreserved : reservedFields.contains e.1 with
    | true => rfl
    | false =>
      have hnot : e.1 ∉ reservedFields := by simpa using hreserved
      exact decide_eq_true (.inr (.inr ⟨h, hnot⟩))
  unfold document?
  rw [hall]

/-- **A column is asked for by its field.** -/
theorem mem_outputFields (hpath : path ∈ columns) (hfield : fieldOf path = some field) :
    field ∈ outputFields columns := by
  have hmem : field ∈ firstOccurrences (columns.filterMap fieldOf) :=
    mem_firstOccurrences.2 (List.mem_filterMap.2 ⟨path, hpath, hfield⟩)
  unfold outputFields
  -- one column that is asked for is enough for the list not to be empty
  rw [if_neg]
  · exact hmem
  · rw [List.isEmpty_iff]
    exact List.ne_nil_of_mem hmem

/-- **Under the head of a column that was asked for, nothing is missing.** -/
theorem get?_folded_returned (h : IsEntity entity) (hpath : path ∈ columns) :
    (folded (returned (outputFields columns) entity)).get? (headOf path) =
      (folded entity).get? (headOf path) := by
  rw [get?_folded (h.returned _), get?_folded h]
  by_cases hmeta : headOf path = "metadata"
  · -- a path into the document asks for all of it
    have hfield : fieldOf path = some furtherFields := if_pos hmeta
    rw [if_pos hmeta, if_pos hmeta, document?_returned (mem_outputFields hpath hfield)]
  · rw [if_neg hmeta, if_neg hmeta]
    split
    case isTrue hreserved =>
      -- a column that is a field is asked for by its name, or it is the distance
      have hcases : ∀ column ∈ reservedFields, column = "metadata" ∨
          storeFields.contains column = true ∨ column = "distance" := by decide
      have hreturned : Returned (outputFields columns) (headOf path) := by
        rcases hcases _ (List.contains_iff_mem.1 hreserved) with hmeta' | hstored | hdistance
        · exact absurd hmeta' hmeta
        · have hfield : fieldOf path = some (headOf path) := by
            unfold fieldOf
            rw [if_neg hmeta, if_pos hstored]
          exact .inr (.inl (mem_outputFields hpath hfield))
        · exact .inl hdistance
      rw [get?_returned, if_pos hreturned]
    case isFalse => rfl

/-! ### Rows -/

/-- **The row of a folded entity.** -/
def rowOf (name : String) (entity : Record) : Record :=
  (schema name).outputColumns.map fun column => (column, Shape.flatCell (folded entity) column)

/-- No cell of an entity is refused by the type of its column. -/
def Fits (name : String) (entity : Record) : Prop :=
  ∀ column ∈ (schema name).outputColumns,
    Shape.refusal? (schema name) (folded entity) column = none

/-- A folded entity has distinct keys, all of them columns. -/
theorem keys_folded (h : IsEntity entity) : (Record.keys (folded entity)).Nodup ∧
    ∀ key ∈ Record.keys (folded entity), key ∈ reservedFields := by
  have hfields : ∀ key ∈ Record.keys (entity.filter fun e => reservedFields.contains e.1),
      key ∈ reservedFields := by
    intro key hkey
    obtain ⟨e, he, rfl⟩ := List.mem_map.1 hkey
    exact List.contains_iff_mem.1 (List.mem_filter.1 he).2
  -- the document comes last, and its key is none of the fields
  unfold folded
  cases document? entity with
  | none =>
    rw [Option.toList_none, List.map_nil, List.append_nil]
    exact ⟨(h.filter _).nodup, hfields⟩
  | some document =>
    have hnew : "metadata" ∉ Record.keys (entity.filter fun e => reservedFields.contains e.1) :=
      (h.filter _).metadata
    have hcolumn : "metadata" ∈ reservedFields := by decide
    rw [Record.keys_append]
    refine ⟨List.nodup_append.2 ⟨(h.filter _).nodup, List.nodup_singleton "metadata", ?_⟩,
      List.forall_mem_append.2 ⟨hfields, List.forall_mem_singleton.2 hcolumn⟩⟩
    rintro key hkey _ hmeta rfl
    obtain rfl : key = "metadata" := List.mem_singleton.1 hmeta
    exact hnew hkey

theorem flatten_folded (h : IsEntity entity) (name : String) :
    Shape.flatten (schema name) (folded entity) = folded entity := by
  obtain ⟨hnodup, hcolumns⟩ := keys_folded h
  -- the columns do not depend on the name, so one collection stands for all
  have hdeclared : ∀ column ∈ reservedFields, ((schema "").column? column).isSome := by decide
  exact Shape.flatten_of_declared hnodup fun key hkey => hdeclared key (hcolumns key hkey)

/-- The columns of a collection are distinct. -/
theorem nodup_outputColumns (name : String) : (schema name).outputColumns.Nodup := by
  have hcolumns : (schema "").outputColumns.Nodup := by decide
  exact hcolumns

variable {settings : Settings} {name : String}

/-- **Folded entities are brought into shape** if they fit, each to its row. -/
theorem unify_entities (settings : Settings) (name : String)
    (h : ∀ entity ∈ hits, IsEntity entity) {rows : List Record} :
    (pipeline settings name).shape.unify (hits.map fun entity => foldMetadata (.object entity)) =
      .ok rows ↔ (∀ entity ∈ hits, Fits name entity) ∧ rows = hits.map (rowOf name) := by
  -- folding every entity is the same as making objects of the folded ones
  have hfold : (hits.map fun entity => foldMetadata (.object entity)) =
      (hits.map folded).map .object := by
    rw [List.map_map]
    exact List.map_congr_left fun entity hentity => foldMetadata_entity (h entity hentity)
  have hdistinct : (pipeline settings name).shape.schema.outputColumns.Nodup :=
    nodup_outputColumns name
  have hproject : ∀ entity ∈ hits, ∀ row,
      (pipeline settings name).shape.project (folded entity) = .ok row ↔
        Fits name entity ∧ row = rowOf name entity := fun entity hentity row =>
    Shape.project_eq_ok_iff hdistinct (keys_folded (h entity hentity)).1
  rw [hfold, Shape.unify, Shape.unifyFrom_objects rfl, mapM_eq_ok_iff, List.forall₂_map_left_iff,
    ← forall₂_eq_ok_iff hproject]
  refine forall₂_congr_of_mem fun entity hentity row => ?_
  have hflat : Shape.flatten (pipeline settings name).shape.schema (folded entity) =
      folded entity := flatten_folded (h entity hentity) name
  rw [hflat]

/-- **A field that is missing is not refused**, and all others are as they were. -/
theorem Fits.returned (h : IsEntity entity) (hfits : Fits name entity) (fields : List String) :
    Fits name (returned fields entity) := by
  intro column hcolumn
  -- whether a cell is refused is seen by the cell and the type of its column alone
  have hfull := hfits column hcolumn
  unfold Shape.refusal? Shape.flatCell at hfull ⊢
  rw [get?_folded h] at hfull
  rw [get?_folded (h.returned fields), get?_returned]
  by_cases hmeta : column = "metadata"
  · -- the type of the document refuses nothing
    subst hmeta
    rfl
  · rw [if_neg hmeta] at hfull ⊢
    split
    case isTrue hreserved =>
      rw [if_pos hreserved] at hfull
      split
      case isTrue => exact hfull
      case isFalse => cases (schema name).column? column <;> simp [Json.isContainer]
    case isFalse hreserved =>
      rw [if_neg hreserved] at hfull
      exact hfull

/-- **The rows of an entity and of what is returned of it agree** on the columns asked for. -/
theorem agreeOn_rowOf_returned (h : IsEntity entity) (name : String) (columns : List String) :
    AgreeOn columns (rowOf name entity) (rowOf name (returned (outputFields columns) entity)) := by
  intro path hpath
  obtain ⟨rest, hsteps⟩ := exists_pathSteps path
  have hhead : (rowOf name entity).get? (headOf path) =
      (rowOf name (returned (outputFields columns) entity)).get? (headOf path) := by
    unfold rowOf Shape.flatCell
    rw [Record.get?_map_mk, Record.get?_map_mk, get?_folded_returned h hpath]
  -- a look-up also tries the whole path, which can be a key only if it is its own head
  have hwhole : (rowOf name entity).get? path =
      (rowOf name (returned (outputFields columns) entity)).get? path := by
    by_cases hcolumn : path ∈ (schema name).outputColumns
    · have hheads : ∀ column ∈ (schema "").outputColumns, headOf column = column := by
        decide +kernel
      rwa [hheads path hcolumn] at hhead
    · unfold rowOf
      rw [Record.get?_map_mk, Record.get?_map_mk, if_neg hcolumn, if_neg hcolumn]
  unfold cellAt
  rw [lookup_congr hsteps hwhole hhead]

/-! ### Answers -/

/-- **Fields that are not asked for do not change an answer.** If a plan of a collection has an
answer on the entities as they are stored, it has the same answer on what the store returns of them,
if it is asked for the fields that the plan names. -/
theorem finish_returned {spec : Spec} {p : Plan} {answer : RowSet}
    (hplan : (pipeline settings name).plan spec = .ok p)
    (hentities : ∀ entity ∈ hits, IsEntity entity)
    (hanswer : (pipeline settings name).finish p
      (hits.map fun entity => foldMetadata (.object entity)) = .ok answer) :
    (pipeline settings name).finish p
      (hits.map fun entity => foldMetadata (.object
        (returned (outputFields p.remote.columns) entity))) = .ok answer := by
  -- the answer is that of rows made up from the entities, so those of both have to agree
  obtain ⟨rows, hrows, hanswer⟩ := bind_eq_ok_iff.1 hanswer
  obtain ⟨hfits, rfl⟩ := (unify_entities settings name hentities).1 hrows
  have hreturned : ∀ entity ∈ hits.map (returned (outputFields p.remote.columns)),
      IsEntity entity ∧ Fits name entity := by
    refine List.forall_mem_map.2 fun entity hentity => ?_
    have hstored := hentities entity hentity
    exact ⟨hstored.returned _, (hfits entity hentity).returned hstored _⟩
  -- what is returned is a list of entities too, so it is brought into shape likewise
  have hunify := (unify_entities settings name
    fun entity hentity => (hreturned entity hentity).1).2
      ⟨fun entity hentity => (hreturned entity hentity).2, rfl⟩
  rw [List.map_map] at hunify
  refine bind_eq_ok_iff.2 ⟨_, hunify, ?_⟩
  -- the rows agree on the columns that the plan reads
  have hcolumns : p.remote.columns = neededColumns p.output p.residual p.localSort :=
    (Planned.of_plan hplan).columns
  rw [← hanswer, List.map_map]
  refine (Plan.complete_congr ?_).symm
  rw [List.forall₂_map_left_iff, List.forall₂_map_right_iff, List.forall₂_same]
  intro entity hentity
  rw [← hcolumns]
  exact agreeOn_rowOf_returned (hentities entity hentity) name _

/-- The identifiers of documents in the order of their languages. -/
def byLanguage : Spec where
  table := some "docs"
  projection := .columns [.plain "id"]
  conditions := []
  orderBy := [⟨"metadata.lang", .ascending⟩]
  limit := none
  offset := none

/-- Two documents with fields that the order does not read. -/
def tongues : List Record :=
  [[("id", .ofInt 1), ("content", "one"), ("lang", "en"), ("distance", .ofInt 0)],
    [("id", .ofInt 2), ("embeddings", .array [.ofInt 1]), ("lang", "de")]]

/-- **They are put into order without their contents and vectors.** -/
theorem finish_returned_tongues :
    ∃ p, (pipeline .standard "docs").plan byLanguage = .ok p ∧
      (∀ entity ∈ tongues, IsEntity entity) ∧
      (tongues.map (returned (outputFields p.remote.columns))) =
        [[("id", Json.ofInt 1), ("lang", "en"), ("distance", .ofInt 0)],
          [("id", .ofInt 2), ("lang", "de")]] ∧
      (pipeline .standard "docs").finish p
        (tongues.map fun entity => foldMetadata (.object entity)) =
          .ok ⟨["id"], [[("id", .ofInt 2)], [("id", .ofInt 1)]]⟩ ∧
      (pipeline .standard "docs").finish p
        (tongues.map fun entity => foldMetadata (.object
          (returned (outputFields p.remote.columns) entity))) =
            .ok ⟨["id"], [[("id", .ofInt 2)], [("id", .ofInt 1)]]⟩ := by
  have hplan : (pipeline .standard "docs").plan byLanguage = .ok _ := rfl
  have hentities : ∀ entity ∈ tongues, IsEntity entity :=
    List.forall_mem_cons.2 ⟨⟨by decide, by decide, by decide⟩,
      List.forall_mem_singleton.2 ⟨by decide, by decide, by decide⟩⟩
  refine ⟨_, hplan, hentities, by decide +kernel, ?_, ?_⟩
  · rfl
  · exact finish_returned hplan hentities rfl

end Collection

end Pushdown
