import Pushdown.Proofs.Tables.Inference

/-!
# First values

A column of undeclared records is meant to have the type of the first value under its key that is
not null, `firstType`. The type that it gets is that of the first **deciding** value, `sampledType`.
The two differ because a column keeps no mark that only nulls were seen: a null makes it one of
texts, as a text does, and a column of texts is retyped.

`infer_column` puts together where the column stands and when its type is the one meant. It is,
unless the first value is a text and a later one decides, `IsRetyped`. What it says of types comes
from one fact: a first value that decides is the deciding value, `decidingValue?_of_firstValue?`.
-/

namespace Pushdown

variable {key : String} {entries : List (String × Json)}

/-! ### Types of first values -/

/-- **The first value under a key** that is not null. -/
def firstValue? (key : String) (entries : List (String × Json)) : Option Json :=
  (entries.find? fun e => e.1 = key && !e.2.isNull).map Prod.snd

/-- **The type that a first value suggests**, and text if all values are null. -/
def firstType (key : String) (entries : List (String × Json)) : ColumnType :=
  ((firstValue? key entries).map ColumnType.ofSample).getD .text

/-- A text comes first under the key, and a later value decides. -/
def IsRetyped (key : String) (entries : List (String × Json)) : Prop :=
  (∃ s, firstValue? key entries = some (.string s)) ∧ ∃ w, decidingValue? key entries = some w

/-- What decides nothing is null or a text. -/
theorem Json.eq_string_of_not_decidesType {v : Json} (h : v.decidesType = false)
    (hnull : v.isNull = false) : ∃ s, v = .string s := by
  cases v with
  | string s => exact ⟨s, rfl⟩
  | null => exact absurd hnull nofun
  | bool | number | array | object => exact absurd h nofun

/-- No first value, none that decides. -/
theorem decidingValue?_of_firstValue?_eq_none (h : firstValue? key entries = none) :
    decidingValue? key entries = none := by
  -- a value that decides is not null, so it would be a first value
  rw [firstValue?, Option.map_eq_none_iff, List.find?_eq_none] at h
  rw [decidingValue?, Option.map_eq_none_iff, List.find?_eq_none]
  intro e he hdecides
  refine h e he ?_
  simp only [Json.decidesType, Bool.and_eq_true] at hdecides ⊢
  exact ⟨hdecides.1, hdecides.2.1⟩

/-- **A first value that decides is the deciding value.** -/
theorem decidingValue?_of_firstValue? {v : Json} (h : firstValue? key entries = some v)
    (hv : v.decidesType = true) : decidingValue? key entries = some v := by
  obtain ⟨e, hfound, rfl⟩ := Option.map_eq_some_iff.1 h
  -- the values before a first value are passed over for either
  obtain ⟨hmeets, before, after, rfl, hbefore⟩ := List.find?_eq_some_iff_append.1 hfound
  refine Option.map_eq_some_iff.2 ⟨e, List.find?_eq_some_iff_append.2
    ⟨?_, before, after, rfl, fun e' he' => ?_⟩, rfl⟩
  · rw [Bool.and_eq_true] at hmeets ⊢
    exact ⟨hmeets.1, hv⟩
  · -- what stands before is under another key or null, and null decides nothing
    have hskipped := hbefore e' he'
    simp only [Json.decidesType, Bool.not_eq_true', Bool.and_eq_false_iff] at hskipped ⊢
    exact hskipped.imp id .inl

/-- A first value that is not null. -/
theorem isNull_of_firstValue? {v : Json} (h : firstValue? key entries = some v) :
    v.isNull = false := by
  obtain ⟨e, hfound, rfl⟩ := Option.map_eq_some_iff.1 h
  have hmeets := List.find?_some hfound
  simpa using (Bool.and_eq_true_iff.1 hmeets).2

/-- **The type is that of the first value, unless the column is retyped.** -/
theorem sampledType_eq_firstType_iff :
    sampledType key entries = firstType key entries ↔ ¬ IsRetyped key entries := by
  cases hfirst : firstValue? key entries with
  | none =>
    -- without a first value there is no deciding one, and the type is text both ways
    have hdeciding := decidingValue?_of_firstValue?_eq_none hfirst
    refine iff_of_true ?_ ?_
    · rw [sampledType, firstType, hdeciding, hfirst]
    · rintro ⟨⟨s, hs⟩, -⟩
      exact Option.some_ne_none _ (hs.symm.trans hfirst)
  | some v =>
    cases hv : v.decidesType with
    | true =>
      -- the deciding value is the first, and it is no text
      have hdeciding := decidingValue?_of_firstValue? hfirst hv
      refine iff_of_true ?_ ?_
      · rw [sampledType, firstType, hdeciding, hfirst]
      · rintro ⟨⟨s, hs⟩, -⟩
        obtain rfl := Option.some.inj (hfirst.symm.trans hs)
        exact Bool.false_ne_true hv
    | false =>
      -- the first value is a text, so the type meant is text, which the other is if nothing decides
      obtain ⟨s, rfl⟩ := Json.eq_string_of_not_decidesType hv (isNull_of_firstValue? hfirst)
      have htext : firstType key entries = .text := by
        rw [firstType, hfirst]
        rfl
      rw [htext, sampledType_eq_text_iff, Option.eq_none_iff_forall_ne_some, IsRetyped]
      exact ⟨fun hnone h => hnone _ h.2.choose_spec, fun hnot w hw => hnot ⟨⟨s, hfirst⟩, w, hw⟩⟩

/-! ### Columns of first values -/

/-- **A key of the records is one column**, where the key first stands, and its type is the one that
the first value suggests, unless that value is a text and a later one decides. -/
theorem Schema.infer_column (table : String) {records : List Record} {key : String}
    (h : key ∈ Record.keys records.flatten) :
    (∃ before after, (infer table records).columns =
        before ++ .output key (sampledType key records.flatten) :: after ∧
      before.map (·.name) =
        firstOccurrences ((Record.keys records.flatten).takeWhile (· ≠ key)) ∧
      key ∉ before.map (·.name) ∧ key ∉ after.map (·.name)) ∧
    (sampledType key records.flatten = firstType key records.flatten ↔
      ¬ IsRetyped key records.flatten) := by
  refine ⟨?_, sampledType_eq_firstType_iff⟩
  -- the key stands where it first occurs among the keys, with no other of its name
  obtain ⟨keysAfter, hkeys⟩ := exists_firstOccurrences_eq h
  have hnodup : (firstOccurrences (Record.keys records.flatten)).Nodup := nodup_firstOccurrences _
  rw [hkeys, List.nodup_append'] at hnodup
  obtain ⟨-, hafter, hdisjoint⟩ := hnodup
  let column (key : String) : Column := .output key (sampledType key records.flatten)
  have hnames (keys : List String) : (keys.map column).map (·.name) = keys :=
    names_map_output keys _
  refine ⟨_, keysAfter.map column, ?_, hnames _, ?_, ?_⟩
  · rw [infer_eq, sampledColumns, hkeys, List.map_append, List.map_cons]
  · exact (hnames _).symm ▸ fun hmem => hdisjoint hmem List.mem_cons_self
  · exact (hnames _).symm ▸ (List.nodup_cons.1 hafter).1

/-- A null does not count as a first value, so a number after it gives the type that is meant. -/
theorem Schema.infer_column_nullFirst :
    (∃ before after,
      (infer "posts" [[("title", "atlas"), ("price", .null)], [("price", .ofNat 20)]]).columns =
        before ++ .output "price" .integer :: after ∧
      before.map (·.name) = ["title"] ∧
      "price" ∉ before.map (·.name) ∧ "price" ∉ after.map (·.name)) ∧
    ColumnType.integer =
      firstType "price" [("title", "atlas"), ("price", .null), ("price", .ofNat 20)] := by
  have hcolumn := @infer_column "posts"
    [[("title", "atlas"), ("price", .null)], [("price", .ofNat 20)]] "price" (by decide)
  -- the first value under the key is a number
  refine ⟨hcolumn.1, hcolumn.2.2 ?_⟩
  rintro ⟨⟨s, hs⟩, -⟩
  exact absurd hs nofun

/-- **A column of texts is retyped by a number after them**, though its first value is no null. -/
theorem Schema.infer_column_textFirst :
    (infer "t" [[("a", "x")], [("a", .ofNat 5)]]).columns = [.output "a" .integer] ∧
    firstValue? "a" [("a", "x"), ("a", .ofNat 5)] = some "x" ∧
    firstType "a" [("a", "x"), ("a", .ofNat 5)] = .text :=
  ⟨rfl, rfl, rfl⟩

end Pushdown
