import Pushdown.Proofs.Collection.Preparation
import Pushdown.Proofs.Translation.Rendering
import Pushdown.Rows.Compare

/-!
# Where filters look for metadata

A condition on `metadata.a.b` can be checked on rows, where `lookup` finds the cell at the path
`a.b` of the metadata, or by the store, for which the same path is written as the place `a["b"]`:
the field `a`, and the key `b` of the object in it. This file compares the two. The store is taken
to read a place as it is written (`readPlace`), and its entity is the metadata spread over a record.

A place takes one step at every point of the path. A look-up goes the same way, but a key that is
the whole rest of the path, points and all, wins over it (`DottedKey`). So the two agree on all
metadata in which no such key is met. A key with a point in it, which metadata is free to have, has
no place: the entity holds it as the field `a.b`, and the filter asks for `a["b"]`.

The main statement is `place_reads_iff`. Its steps: what is written for a path is read as the steps
of the path (`placeSteps?_placeText`), a look-up without a dotted key finds what stands at these
steps (`standsAt_of_lookupSteps`), and spreading keeps what stands in the metadata
(`StandsAt.spread`).
-/

namespace Pushdown.Collection

variable {r m out stored : Record} {steps : List String} {v : Json}

/-! ### Specification -/

/-- **The keys that are written in brackets**, given the part of a key that has been read, which is
held in reverse. -/
def readKeys? : (reversed : Option (List Char)) → List Char → Option (List String)
  | none, [] => some []
  | none, '[' :: '"' :: rest => readKeys? (some []) rest
  | none, _ => none
  | some _, [] => none
  | some key, c :: rest =>
    if c = '"' then
      match rest with
      | ']' :: rest => (readKeys? none rest).map (String.ofList key.reverse :: ·)
      | _ => none
    else readKeys? (some (c :: key)) rest

/-- **The steps that a place is written for**: a field, and the keys behind it. -/
def placeSteps? (place : String) : Option (List String) :=
  (readKeys? none (place.toList.dropWhile (· ≠ '['))).map
    (String.ofList (place.toList.takeWhile (· ≠ '[')) :: ·)

/-- What stands at steps into a record. -/
def valueAt : (steps : List String) → Record → Option Json
  | [], _ => none
  | [key], r => r.get? key
  | key :: next :: rest, r =>
    match r.get? key with
    | some (.object inner) => valueAt (next :: rest) inner
    | _ => none

/-- **What a store reads at a place of an entity.** -/
def readPlace (place : String) (entity : Record) : Option Json :=
  (placeSteps? place).bind (valueAt · entity)

/-- **A value stands at steps into a record**: under the last one, in the objects under those before
it. -/
inductive StandsAt : (steps : List String) → Record → Json → Prop where
  /-- A field of the record. -/
  | field {key : String} {r : Record} {v : Json} (h : r.get? key = some v) : StandsAt [key] r v
  /-- Below a field of the record. -/
  | under {first : String} {steps : List String} {r inner : Record} {v : Json}
    (h : r.get? first = some (.object inner)) (hinner : StandsAt steps inner v) :
    StandsAt (first :: steps) r v

/-- **A dotted key is met on the way**: in the record, or in an object under the first steps, there
is a key that is all steps left, more than one, joined by points. -/
inductive DottedKey : (steps : List String) → Record → Prop where
  /-- A key of the record. -/
  | here {first next : String} {rest : List String} {r : Record} {v : Json}
    (h : r.get? (".".intercalate (first :: next :: rest)) = some v) :
    DottedKey (first :: next :: rest) r
  /-- Below a field of the record. -/
  | under {first : String} {steps : List String} {r inner : Record}
    (h : r.get? first = some (.object inner)) (hinner : DottedKey steps inner) :
    DottedKey (first :: steps) r

/-- **A path whose steps can be written in brackets.** -/
structure PlainPath (path : String) : Prop where
  quote : '"' ∉ path.toList
  bracket : '[' ∉ path.toList

/-! ### Places -/

theorem readKeys?_char {c : Char} {reversed cs : List Char} (h : c ≠ '"') :
    readKeys? (some reversed) (c :: cs) = readKeys? (some (c :: reversed)) cs :=
  (readKeys?.eq_def _ _).trans (if_neg h)

/-- A key is read up to the quote behind it. -/
theorem readKeys?_key {reversed step cs : List Char} (h : '"' ∉ step) :
    readKeys? (some reversed) (step ++ '"' :: ']' :: cs) =
      (readKeys? none cs).map (String.ofList (reversed.reverse ++ step) :: ·) := by
  -- on the characters of the key: none of them is the quote that ends it
  induction step generalizing reversed with
  | nil =>
    rw [List.nil_append, List.append_nil]
    rfl
  | cons c step ih =>
    rw [List.mem_cons, not_or] at h
    rw [List.cons_append, readKeys?_char (Ne.symm h.1), ih h.2, List.reverse_cons,
      List.append_assoc]
    rfl

/-- Keys in brackets. -/
def bracketed (steps : List (List Char)) : List Char :=
  steps.flatMap fun step => '[' :: '"' :: step ++ ['"', ']']

/-- **Keys in brackets are read as they are.** -/
theorem readKeys?_bracketed {steps : List (List Char)} (h : ∀ step ∈ steps, '"' ∉ step) :
    readKeys? none (bracketed steps) = some (steps.map String.ofList) := by
  induction steps with
  | nil => rfl
  | cons step steps ih =>
    rw [List.forall_mem_cons] at h
    have hcons : bracketed (step :: steps) =
        '[' :: '"' :: (step ++ '"' :: ']' :: bracketed steps) := by
      simp [bracketed]
    rw [hcons, readKeys?, readKeys?_key h.1, ih h.2]
    rfl

/-- The text of a place is a field with keys in brackets behind it. -/
theorem toList_placeText {path : String} {field : List Char} {steps : List (List Char)}
    (h : Text.splitOn '.' path.toList = field :: steps) :
    (ExpressionDialect.placeText path).toList = field ++ bracketed steps := by
  unfold ExpressionDialect.placeText
  rw [h]
  simp [bracketed, List.flatMap_map]

/-- The field ends where the first bracket opens. -/
theorem span_bracketed {field : List Char} (hfield : '[' ∉ field) (steps : List (List Char)) :
    (field ++ bracketed steps).takeWhile (· ≠ '[') = field ∧
      (field ++ bracketed steps).dropWhile (· ≠ '[') = bracketed steps := by
  -- the field has no bracket of its own, so the first one is that of the first key
  have hall : ∀ c ∈ field, decide (c ≠ '[') = true := fun c hc =>
    decide_eq_true fun heq => hfield (heq ▸ hc)
  rw [List.takeWhile_append_of_pos hall, List.dropWhile_append_of_pos hall]
  cases steps with
  | nil => exact ⟨List.append_nil field, rfl⟩
  | cons step steps => exact ⟨List.append_nil field, rfl⟩

/-- **The place that is written for a path is read as its steps.** -/
theorem placeSteps?_placeText {path : String} (h : PlainPath path) :
    placeSteps? (ExpressionDialect.placeText path) = some (pathSteps path) := by
  -- a step has only characters of the path
  have hpieces {c : Char} (hc : c ∉ path.toList) :
      ∀ piece ∈ Text.splitOn '.' path.toList, c ∉ piece :=
    fun piece hpiece hmem => hc (Text.mem_of_mem_splitOn hpiece hmem)
  have hquote := hpieces h.quote
  have hbracket := hpieces h.bracket
  unfold pathSteps
  cases hsplit : Text.splitOn '.' path.toList with
  -- a path has at least one step, its field
  | nil => exact absurd hsplit Text.splitOn_ne_nil
  | cons field steps =>
    rw [hsplit, List.forall_mem_cons] at hquote hbracket
    obtain ⟨hfield, hkeys⟩ := span_bracketed hbracket.1 steps
    unfold placeSteps?
    rw [toList_placeText hsplit, hfield, hkeys, readKeys?_bracketed hquote.2]
    rfl

/-! ### Values -/

theorem valueAt_eq_some_iff : valueAt steps r = some v ↔ StandsAt steps r v := by
  constructor
  · intro h
    -- by the recursion of `valueAt`: nothing stands at no steps, or below a value that is no object
    fun_induction valueAt steps r with
    | case1 => exact absurd h nofun
    | case2 => exact .field h
    | case3 r key next rest inner hkey ih => exact .under hkey (ih h)
    | case4 => exact absurd h nofun
  · intro h
    induction h with
    | field h => exact h
    | under hfirst hinner ih =>
      -- there is a step behind the first, or nothing could stand there
      cases hinner with
      | field | under =>
        rw [valueAt, hfirst]
        exact ih

/-- **A look-up that meets no dotted key goes step by step.** -/
theorem standsAt_of_lookupSteps (h : lookupSteps steps r = some v) (hdotted : ¬ DottedKey steps r) :
    StandsAt steps r v := by
  -- on the steps, as the look-up goes down by one with each object
  induction steps generalizing r with
  | nil => exact absurd h nofun
  | cons first rest ih =>
    cases rest with
    | nil => exact .field h
    | cons next rest =>
      -- the look-up tries all steps left as one key before it takes the first
      cases hjoined : r.get? (".".intercalate (first :: next :: rest)) with
      | some w => exact absurd (.here hjoined) hdotted
      | none =>
        rw [lookupSteps, hjoined] at h
        cases hfirst : r.get? first with
        | none =>
          rw [hfirst] at h
          exact absurd h nofun
        | some w =>
          rw [hfirst] at h
          cases w with
          -- one step down, in the object; a dotted key there would be one here
          | object inner => exact .under hfirst (ih h fun hinner => hdotted (.under hfirst hinner))
          | null | bool | number | string | array => exact absurd h nofun

/-- **Spreading keeps what stands in the metadata.** -/
theorem StandsAt.spread (h : StandsAt steps m v) (hm : (Record.keys m).Nodup)
    (hspread : spreadMetadata out m = .ok stored) : StandsAt steps stored v := by
  obtain ⟨-, rfl⟩ := spreadMetadata_eq_ok_iff.1 hspread
  have hfield {key : String} {w : Json} (hkey : m.get? key = some w) :
      (out.insertAll m).get? key = some w := by
    -- an entry of the metadata replaces a column of its name, so it is there in any case
    rw [Record.get?_insertAll hm, hkey]
    rfl
  -- only the first step is taken in the entity, all others inside the same values as before
  cases h with
  | field hkey => exact .field (hfield hkey)
  | under hfirst hinner => exact .under (hfield hfirst) hinner

/-! ### Filters -/

variable {c : Condition} {path text : String}

/-- **A filter on metadata reads what a look-up finds, unless a dotted key is in the way.** The text
of a condition on a path below the metadata starts with the place of the path. Where the look-up of
the path finds a value, the store reads the same value at this place of the entity exactly if no key
of the metadata that has points in it is met on the way, or the same value stands at the steps as
well. -/
theorem place_reads_iff (hm : (Json.object m).WellFormed)
    (hspread : spreadMetadata out m = .ok stored) (hpath : PlainPath path)
    (hlookup : lookup m path = some v) (hc : c.column = "metadata." ++ path)
    (hrender : dialect.render c = .ok text) :
    text = "(" ++ ExpressionDialect.placeText path ++ " " ++ ExpressionDialect.sign c.op ++ " " ++
        ExpressionDialect.operandText c.operand ++ ")" ∧
      (readPlace (ExpressionDialect.placeText path) stored = some v ↔
        (DottedKey (pathSteps path) m → StandsAt (pathSteps path) stored v)) := by
  constructor
  · -- a path below the metadata is written as its place, without the metadata's own name
    have hfield : c.fieldUnder dialect.documents = some path :=
      Condition.fieldUnder_eq_some_iff.2 hc
    obtain ⟨-, rfl⟩ := ExpressionDialect.render_eq_ok_iff.1 hrender
    unfold ExpressionDialect.conditionText
    rw [hfield]
    rfl
  · have hread : readPlace (ExpressionDialect.placeText path) stored = some v ↔
        StandsAt (pathSteps path) stored v := by
      unfold readPlace
      rw [placeSteps?_placeText hpath, Option.bind_some, valueAt_eq_some_iff]
    rw [hread]
    refine ⟨fun hstands _ => hstands, fun hstands => ?_⟩
    -- the look-up and the store differ at most where a dotted key is met
    by_cases hdotted : DottedKey (pathSteps path) m
    · exact hstands hdotted
    · exact (standsAt_of_lookupSteps hlookup hdotted).spread hm.1 hspread

/-- A condition on the kind of the source of a document. -/
def onSourceKind : Condition := ⟨.eq, "metadata.source.kind", .scalar "news"⟩

/-- Metadata with a source. -/
def sourcedMetadata : Record := [("source", .object [("kind", "news")]), ("year", .ofInt 2020)]

/-- **The kind of the source is read where it was inserted.** -/
theorem onSourceKind_reads :
    dialect.render onSourceKind = .ok "(source[\"kind\"] == \"news\")" ∧
    readPlace "source[\"kind\"]" (("id", .ofInt 1) :: sourcedMetadata) = some "news" := by
  have hrender : dialect.render onSourceKind = .ok "(source[\"kind\"] == \"news\")" :=
    eq_ok_of_toOption (by decide +kernel)
  have hm : (Json.object sourcedMetadata).WellFormed := by
    simp [sourcedMetadata, Json.WellFormed, Json.WellFormedEntries, Json.ofInt, Record.keys]
  have hspread : spreadMetadata [("id", .ofInt 1)] sourcedMetadata =
      .ok (("id", .ofInt 1) :: sourcedMetadata) := rfl
  have hlookup : lookup sourcedMetadata "source.kind" = some "news" := by decide +kernel
  have hsteps : pathSteps "source.kind" = ["source", "kind"] := by decide +kernel
  have hplace : ExpressionDialect.placeText "source.kind" = "source[\"kind\"]" := by decide +kernel
  obtain ⟨-, hreads⟩ := place_reads_iff hm hspread ⟨by decide, by decide⟩ hlookup rfl hrender
  rw [hplace, hsteps] at hreads
  refine ⟨hrender, hreads.2 fun hdotted => ?_⟩
  -- neither the metadata nor the source has a key with a point in it
  cases hdotted with
  | here hkey =>
    have hnone : sourcedMetadata.get? (".".intercalate ["source", "kind"]) = none := by
      decide +kernel
    cases hnone.symm.trans hkey
  | under _ hinner =>
    cases hinner with
    | under _ hnone => cases hnone

/-- A condition on a key with a point in it. -/
def onDottedKey : Condition := ⟨.eq, "metadata.a.b", .scalar (.ofInt 5)⟩

/-- **A key with a point in it is found by a look-up and not read by the filter.** -/
theorem onDottedKey_not_reads :
    spreadMetadata [("id", .ofInt 1)] [("a.b", .ofInt 5)] =
      .ok [("id", .ofInt 1), ("a.b", .ofInt 5)] ∧
    lookup [("a.b", .ofInt 5)] "a.b" = some (.ofInt 5) ∧
    dialect.render onDottedKey = .ok "(a[\"b\"] == 5)" ∧
    readPlace "a[\"b\"]" [("id", .ofInt 1), ("a.b", .ofInt 5)] = none := by
  refine ⟨rfl, by decide +kernel, ?_, by decide +kernel⟩
  exact eq_ok_of_toOption (by decide +kernel)

end Pushdown.Collection
