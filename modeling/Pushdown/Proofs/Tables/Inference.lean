import Pushdown.Proofs.Plan.Columns

/-!
# Columns that records suggest

`Schema.infer` goes through all entries of all records with `withSample`. What comes out can be said
without the way there, `infer_eq`: the columns are the first occurrences of the keys, and the
type of each is that of the first value under its key that is neither null nor a text, the
**deciding** value. Later values do not count, whatever they are. If no value decides, the column is
one of texts.

A text column is the only kind that a later value retypes. That is the same as to wait for a
deciding value, because the type of a value is text exactly if the value decides nothing,
`ofSample_eq_text_iff`.
-/

namespace Pushdown

/-! ### Deciding values -/

/-- A value that decides on the type of a column. -/
def Json.decidesType (v : Json) : Bool := !v.isNull && !v.isString

/-- The type that an array suggests is one of those for containers. -/
theorem ColumnType.ofSample_array (items : List Json) :
    ofSample (.array items) = .vector ∨ ofSample (.array items) = .json := by
  cases items with
  | nil => exact .inr rfl
  | cons item items =>
    change (if (item :: items).all Json.isNumber then vector else json) = _ ∨ _
    split
    case isTrue => exact .inl rfl
    case isFalse h => exact .inr (if_neg h)

/-- **Text is suggested by what decides nothing**, and by nothing else. -/
theorem ColumnType.ofSample_eq_text_iff {v : Json} :
    ofSample v = .text ↔ v.decidesType = false := by
  match v with
  | .null | .string _ => exact iff_of_true rfl rfl
  | .bool _ | .number (.int _) | .number (.float _) | .object _ => exact iff_of_false nofun nofun
  | .array items =>
    refine iff_of_false ?_ nofun
    -- an array suggests no text, whatever its items are
    rcases ofSample_array items with h | h
    · exact h ▸ nofun
    · exact h ▸ nofun

/-- The type that a value suggests holds containers exactly if the value is one. -/
theorem ColumnType.isScalar_ofSample (v : Json) : (ofSample v).isScalar = !v.isContainer := by
  match v with
  | .null | .string _ | .bool _ | .number (.int _) | .number (.float _) | .object _ => rfl
  | .array items =>
    rcases ofSample_array items with h | h
    · exact h ▸ rfl
    · exact h ▸ rfl

variable {key : String} {entries : List (String × Json)}

/-- **The deciding value under a key**: the first that is neither null nor a text. -/
def decidingValue? (key : String) (entries : List (String × Json)) : Option Json :=
  (entries.find? fun e => e.1 = key && e.2.decidesType).map Prod.snd

/-- **The type of a column**, by the entries under its key. -/
def sampledType (key : String) (entries : List (String × Json)) : ColumnType :=
  ((decidingValue? key entries).map ColumnType.ofSample).getD .text

theorem decidesType_of_decidingValue? {w : Json} (h : decidingValue? key entries = some w) :
    w.decidesType = true := by
  obtain ⟨e, he, rfl⟩ := Option.map_eq_some_iff.1 h
  have hboth := List.find?_some he
  exact (Bool.and_eq_true_iff.1 hboth).2

/-- One more entry decides if it is under the key, decides, and is the first to do so. -/
theorem decidingValue?_append_singleton (key : String) (entries : List (String × Json))
    (e : String × Json) : decidingValue? key (entries ++ [e]) =
      (decidingValue? key entries).or
        (if e.1 = key ∧ e.2.decidesType = true then some e.2 else none) := by
  unfold decidingValue?
  rw [List.find?_append, Option.map_or, List.find?_singleton]
  by_cases h : e.1 = key ∧ e.2.decidesType = true
  · rw [if_pos h, if_pos (by simp [h])]
    rfl
  · rw [if_neg h, if_neg (by simpa using h)]
    rfl

/-- **Where nothing is decided the type is text**, and only there. -/
theorem sampledType_eq_text_iff : sampledType key entries = .text ↔
    decidingValue? key entries = none := by
  unfold sampledType
  cases h : decidingValue? key entries with
  | none => exact iff_of_true rfl rfl
  | some w =>
    -- a deciding value suggests a type that is not text
    refine iff_of_false (fun htext => ?_) nofun
    have hnot := ColumnType.ofSample_eq_text_iff.1 htext
    exact absurd (decidesType_of_decidingValue? h) (by rw [hnot]; exact Bool.false_ne_true)

theorem sampledType_of_notMem (h : key ∉ Record.keys entries) :
    sampledType key entries = .text := by
  rw [sampledType_eq_text_iff, decidingValue?, Option.map_eq_none_iff, List.find?_eq_none]
  intro e he hboth
  -- the value would stand under a key of the entries
  have hkey : e.1 = key := of_decide_eq_true (Bool.and_eq_true_iff.1 hboth).1
  exact h (hkey ▸ List.mem_map_of_mem he)

/-- An entry under another key does not count. -/
theorem sampledType_append_of_ne {e : String × Json} (h : e.1 ≠ key) :
    sampledType key (entries ++ [e]) = sampledType key entries := by
  unfold sampledType
  rw [decidingValue?_append_singleton, if_neg fun hboth => h hboth.1, Option.or_none]

/-- **An entry retypes a column of texts**, if it decides. -/
theorem sampledType_append_self (e : String × Json) :
    sampledType e.1 (entries ++ [e]) =
      if sampledType e.1 entries = .text ∧ e.2.decidesType = true then .ofSample e.2
      else sampledType e.1 entries := by
  have htext : sampledType e.1 entries = .text ↔ decidingValue? e.1 entries = none :=
    sampledType_eq_text_iff
  have hafter : decidingValue? e.1 (entries ++ [e]) = (decidingValue? e.1 entries).or
      (if e.1 = e.1 ∧ e.2.decidesType = true then some e.2 else none) :=
    decidingValue?_append_singleton e.1 entries e
  cases hdeciding : decidingValue? e.1 entries with
  | some w =>
    -- what is decided is not decided again, and a decided type is not text
    have hnot : ¬ (sampledType e.1 entries = .text ∧ e.2.decidesType = true) :=
      fun hboth => absurd (hdeciding.symm.trans (htext.1 hboth.1)) nofun
    rw [if_neg hnot, sampledType, sampledType, hafter, hdeciding, Option.some_or]
  | none =>
    have hnothing : sampledType e.1 entries = .text := htext.2 hdeciding
    rw [hdeciding, Option.none_or] at hafter
    rw [sampledType, hafter]
    by_cases h : e.2.decidesType = true
    · rw [if_pos ⟨rfl, h⟩, if_pos ⟨hnothing, h⟩]
      rfl
    · rw [if_neg fun hboth => h hboth.2, if_neg fun hboth => h hboth.2, hnothing]
      rfl

/-! ### Columns -/

namespace Schema

variable {columns : List Column} {value : Json}

/-- A key that is not there yet is a new column at the end. -/
theorem withSample_of_notMem (h : key ∉ columns.map (·.name)) :
    withSample columns key value = columns ++ [.output key (.ofSample value)] := by
  induction columns with
  | nil => rfl
  | cons c columns ih =>
    rw [List.map_cons, List.mem_cons, not_or] at h
    rw [withSample, if_neg (Ne.symm h.1), ih h.2]
    rfl

/-- A key that is there changes nothing but its own column. -/
theorem withSample_of_mem (hnodup : (columns.map (·.name)).Nodup)
    (h : key ∈ columns.map (·.name)) :
    withSample columns key value = columns.map fun c =>
      if c.name = key ∧ c.type = .text ∧ value.decidesType = true then
        { c with type := .ofSample value } else c := by
  induction columns with
  | nil => exact absurd h List.not_mem_nil
  | cons c columns ih =>
    obtain ⟨hc, hcolumns⟩ := List.nodup_cons.1 hnodup
    rw [withSample, List.map_cons]
    by_cases hkey : c.name = key
    · -- no other column has the key
      have hothers : columns.map (fun c => if c.name = key ∧ c.type = .text ∧
          value.decidesType = true then { c with type := .ofSample value } else c) = columns := by
        refine (List.map_congr_left fun c' hc' => if_neg fun h => ?_).trans (List.map_id columns)
        exact hc (List.mem_map.2 ⟨c', hc', h.1.trans hkey.symm⟩)
      rw [if_pos hkey, hothers]
      simp only [hkey, true_and, Json.decidesType, Bool.and_eq_true, decide_eq_true_eq, and_assoc]
    · have hmem : key ∈ columns.map (·.name) := (List.mem_cons.1 h).resolve_left (Ne.symm hkey)
      rw [if_neg hkey, if_neg fun h => hkey h.1, ih hcolumns hmem]

/-- Columns for keys are named by them. -/
theorem names_map_output (keys : List String) (type : String → ColumnType) :
    (keys.map fun key => Column.output key (type key)).map (·.name) = keys := by
  rw [List.map_map]
  exact List.map_id keys

/-- **The columns of entries**: one for each key, where it first stands. -/
def sampledColumns (entries : List (String × Json)) : List Column :=
  (firstOccurrences (Record.keys entries)).map fun key => .output key (sampledType key entries)

theorem names_sampledColumns (entries : List (String × Json)) :
    (sampledColumns entries).map (·.name) = firstOccurrences (Record.keys entries) :=
  names_map_output _ _

/-- **One more sample.** -/
theorem withSample_sampledColumns (entries : List (String × Json)) (e : String × Json) :
    withSample (sampledColumns entries) e.1 e.2 = sampledColumns (entries ++ [e]) := by
  have hkeys : Record.keys (entries ++ [e]) = Record.keys entries ++ [e.1] := List.map_append
  have hnames := names_sampledColumns entries
  -- a known key can retype its own column, and a new one is a column at the end
  by_cases hmem : e.1 ∈ firstOccurrences (Record.keys entries)
  · rw [withSample_of_mem (hnames ▸ nodup_firstOccurrences _) (hnames.symm ▸ hmem)]
    unfold sampledColumns
    rw [hkeys, firstOccurrences_append_singleton, if_pos hmem, List.map_map]
    refine List.map_congr_left fun key _ => ?_
    change (if key = e.1 ∧ sampledType key entries = .text ∧ e.2.decidesType = true then
      Column.output key (.ofSample e.2) else .output key (sampledType key entries)) = _
    by_cases hkey : key = e.1
    · subst hkey
      rw [sampledType_append_self]
      by_cases h : sampledType e.1 entries = .text ∧ e.2.decidesType = true
      · rw [if_pos ⟨rfl, h⟩, if_pos h]
      · rw [if_neg fun hboth => h hboth.2, if_neg h]
    · -- the entry is none of this column
      rw [if_neg fun hboth => hkey hboth.1, sampledType_append_of_ne (Ne.symm hkey)]
  · rw [withSample_of_notMem (hnames.symm ▸ hmem)]
    unfold sampledColumns
    rw [hkeys, firstOccurrences_append_singleton, if_neg hmem, List.map_append]
    have hnew : sampledType e.1 entries = .text :=
      sampledType_of_notMem fun h => hmem (mem_firstOccurrences.2 h)
    refine congrArg₂ (· ++ ·) (List.map_congr_left fun key hkey => ?_) ?_
    · -- the columns before have keys of their own
      have hne : e.1 ≠ key := fun h => hmem (h ▸ hkey)
      rw [sampledType_append_of_ne hne]
    · -- the first value under a key gives the type even if it decides nothing
      rw [List.map_singleton, sampledType_append_self, hnew]
      by_cases h : e.2.decidesType = true
      · rw [if_pos ⟨rfl, h⟩]
      · rw [if_neg fun hboth => h hboth.2,
          ColumnType.ofSample_eq_text_iff.2 (Bool.not_eq_true _ ▸ h)]

/-- **The columns that records suggest**, without the way there. -/
theorem infer_eq (table : String) (records : List Record) :
    infer table records = ⟨table, sampledColumns records.flatten⟩ := by
  -- samples come in from the left, so the induction is on the last one
  have hfold (entries : List (String × Json)) :
      entries.foldl (fun columns e => withSample columns e.1 e.2) [] = sampledColumns entries := by
    induction entries using List.reverseRecOn with
    | nil => rfl
    | append_singleton entries e ih =>
      rw [List.foldl_concat, ih]
      exact withSample_sampledColumns entries e
  rw [← hfold, List.foldl_flatten]
  rfl

/-- Rows carry all columns that records suggest. -/
theorem outputColumns_infer (table : String) (records : List Record) :
    (infer table records).outputColumns = firstOccurrences (Record.keys records.flatten) := by
  have hall : (sampledColumns records.flatten).filter (!·.filterOnly) =
      -- no column that records suggest is for filters alone
      sampledColumns records.flatten := by
    refine List.filter_eq_self.2 fun c hc => ?_
    obtain ⟨key, -, rfl⟩ := List.mem_map.1 hc
    rfl
  rw [infer_eq]
  unfold outputColumns
  rw [hall]
  exact names_sampledColumns records.flatten

/-- Every key of a record is a column that records suggest. -/
theorem column?_infer (table : String) {records : List Record} {key : String}
    (h : key ∈ Record.keys records.flatten) :
    (infer table records).column? key =
      some (.output key (sampledType key records.flatten)) := by
  rw [infer_eq]
  unfold column? sampledColumns
  rw [List.find?_map]
  -- a key that stands somewhere is found where it first stands
  have hfound : (firstOccurrences (Record.keys records.flatten)).find? (· == key) = some key := by
    cases hfind : (firstOccurrences (Record.keys records.flatten)).find? (· == key) with
    | some key' =>
      have hsame : (key' == key) = true := List.find?_some (p := (· == key)) hfind
      rw [beq_iff_eq.1 hsame]
    | none =>
      have hnot := List.find?_eq_none.1 hfind key (mem_firstOccurrences.2 h)
      exact absurd (beq_self_eq_true key) hnot
  exact congrArg (Option.map _) hfound

end Schema

end Pushdown
