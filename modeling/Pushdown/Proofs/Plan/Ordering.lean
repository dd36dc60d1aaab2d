import Pushdown.Proofs.Order.Rows
import Pushdown.Proofs.Order.StableSort
import Pushdown.Proofs.Rows.Filter

/-!
# Orders of an answer

What is done locally ends with a window, and which rows are in it depends on the order of all rows.
So the order is stated of the whole list before the window is cut: it is stably sorted from the rows
that meet the conditions left over, and nulls come last. Both together are `complete_sorted`.

`NullsLast` is said key by key, of rows that the keys before find equal: a row with a null does not
stand before one without. This is no matter of the sort. A null is greater than any other cell in
either direction, as the direction is applied to the comparison of two cells and not to their being
null; so a list without a greater row before a lesser one has nulls last (`nullsLast_of_ordered`).

The sort can be relied upon where the keys compare the rows lawfully. Keys of texts compare any rows
lawfully, since any cell has a text (`lawfulOn_texts`).
-/

namespace Pushdown

variable {schema : Schema} {p : Plan} {keys : List TypedKey} {rows : List Record}

/-! ### Nulls -/

/-- **Nulls come last** under every key, among the rows that the keys before it find equal. -/
def NullsLast (keys : List TypedKey) (rows : List Record) : Prop :=
  ∀ before k after, keys = before ++ k :: after →
    rows.Pairwise fun a b => compareRows before a b = .eq →
      (k.cell a).isNull = true → (k.cell b).isNull = true

theorem compareRows_append (before after : List TypedKey) (a b : Record) :
    compareRows (before ++ after) a b = (compareRows before a b).then (compareRows after a b) := by
  induction before with
  | nil => rfl
  | cons k before ih => rw [List.cons_append, compareRows, compareRows, ih, Ordering.then_assoc]

/-- A null is greater than any other cell, in either direction. -/
theorem orderCells_null {type : ColumnType} {d : Direction} {a b : Json} (ha : a.isNull = true)
    (hb : b.isNull = false) : orderCells type d a b = .gt := by
  unfold orderCells
  rw [ha, hb]

/-- **Where no row is greater than a later one, nulls come last.** -/
theorem nullsLast_of_ordered (h : rows.Pairwise fun a b => compareRows keys a b ≠ .gt) :
    NullsLast keys rows := by
  rintro before k after rfl
  refine h.imp fun {a b} hle hequal hnull => ?_
  by_contra hsome
  -- the keys before decide nothing, so a null before another cell would be a greater row
  have hcell : orderCells k.type k.direction (k.cell a) (k.cell b) = .gt :=
    orderCells_null hnull (Bool.eq_false_of_not_eq_true hsome)
  have hgreater : compareRows (before ++ k :: after) a b = .gt := by
    rw [compareRows_append, hequal, Ordering.eq_then, compareRows, hcell]
    rfl
  exact hle hgreater

/-! ### Texts -/

/-- Cells of a column of texts compare by whether they are null, and then by their texts. -/
theorem orderCells_text (d : Direction) (a b : Json) :
    orderCells .text d a b =
      (compare a.isNull.toNat b.isNull.toNat).then (d.apply (orderTexts a b)) := by
  cases ha : a.isNull with
  | true =>
    cases hb : b.isNull with
    | true =>
      -- null is one value, so two of them are equal in either direction
      rw [Json.isNull_iff.1 ha, Json.isNull_iff.1 hb]
      cases d <;> rfl
    | false =>
      unfold orderCells
      rw [ha, hb]
      rfl
  | false =>
    cases hb : b.isNull with
    | true =>
      unfold orderCells
      rw [ha, hb]
      rfl
    | false =>
      -- with no null on either side the cells of a text column compare by their texts
      rw [orderCells_of_isNull ha hb]
      unfold patched
      rw [compareCells?_of_isNull ha hb]
      rfl

/-- **Keys of texts compare any rows lawfully.** -/
theorem lawfulOn_texts (htexts : ∀ k ∈ keys, k.type = .text) (s : Set Record) :
    LawfulOn (compareRows keys) s := by
  refine lawfulOn_compareRows fun k hk => ?_
  rw [htexts k hk]
  -- both parts are lawful: a number decides about nulls, and texts have an order
  have hnulls : LawfulOn (fun a b : Json => compare a.isNull.toNat b.isNull.toNat) (k.cell '' s) :=
    LawfulOn.compareBy fun v : Json => v.isNull.toNat
  have hcells : LawfulOn (fun a b => k.direction.apply (orderTexts a b)) (k.cell '' s) :=
    lawfulOn_apply_iff.2 lawfulOn_orderTexts
  exact (hnulls.lexicographic hcells).congr fun a _ b _ => orderCells_text k.direction a b

/-! ### Answers -/

/-- A window without an end reaches to the end of the list. -/
theorem cutWindow_eq {α : Type} (offset limit : Option Nat) (items : List α) :
    cutWindow offset limit items =
      (items.drop (offset.getD 0)).take (limit.getD items.length) := by
  cases limit with
  | some n => rfl
  | none =>
    -- what is dropped only makes the list shorter
    have hlen : (items.drop (offset.getD 0)).length ≤ items.length := by
      rw [List.length_drop]
      exact Nat.sub_le _ _
    exact (List.take_of_length_le hlen).symm

/-- **The answer to a plan is a window of a sorted list.** If the conditions left over compile and
the keys compare the rows lawfully, as keys of texts always do, the rows of the answer are the
window of one list. It has the rows that meet the conditions, none of them greater than a later one,
equal ones in their old order, and under each key the nulls last. -/
theorem complete_sorted :
    ((∀ k ∈ typedKeys schema p.localSort, k.type = .text) →
      LawfulOn (compareRows (typedKeys schema p.localSort)) Set.univ) ∧
    ((∀ c ∈ p.residual, ∃ compiled, CompiledCondition.compile schema c = .ok compiled) →
      LawfulOn (compareRows (typedKeys schema p.localSort)) {row | row ∈ rows} →
      ∃ filters sorted, compileAll schema p.residual = .ok filters ∧
        (∀ list, StablySorted (compareRows (typedKeys schema p.localSort))
          (rows.filter (meetsAll filters)) list ↔ list = sorted) ∧
        NullsLast (typedKeys schema p.localSort) sorted ∧
        p.complete schema rows = .ok ⟨p.outputNames,
          ((sorted.drop (p.localOffset.getD 0)).take (p.localLimit.getD sorted.length)).map
            (projectRow p.output)⟩) := by
  refine ⟨fun htexts => lawfulOn_texts htexts Set.univ, fun hcompile hlawful => ?_⟩
  obtain ⟨filters, hfilters⟩ := exists_compileAll hcompile
  -- conditions keep some of the rows, and on these the keys are lawful too
  have hkept := hlawful.filter (meetsAll filters)
  have hsorted := sortLocally_stablySorted hkept
  refine ⟨filters, _, hfilters, fun list => ⟨fun h => h.unique hkept hsorted, ?_⟩,
    nullsLast_of_ordered hsorted.ordered, ?_⟩
  · rintro rfl
    exact hsorted
  · unfold Plan.complete
    rw [hfilters, ← cutWindow_eq]
    rfl

/-- A table of errands with the day each is due. -/
def errands : Schema := ⟨"errands", [.output "name" .text, .output "due" .text]⟩

/-- An errand that is due on a day. -/
def errand (name : String) (due : Json) : Record := [("name", .string name), ("due", due)]

/-- Some errands, in no order, and a day off. -/
def someErrands : List Record :=
  [errand "a" "2", errand "b" .null, errand "c" "3", errand "rest" "9", [("name", "d")],
    errand "e" "2"]

/-- The latest errand but one and two more. -/
def latestErrands : Plan :=
  ⟨.forTable "errands", [⟨.notEq, "name", .scalar "rest"⟩], [⟨"due", .descending⟩], some 1, some 3,
    [.plain "name"]⟩

/-- What is due on no day comes last although the latest comes first, and the window ends there. -/
theorem complete_sorted_latestErrands :
    NullsLast (typedKeys errands latestErrands.localSort)
        [errand "c" "3", errand "a" "2", errand "e" "2", errand "b" .null, [("name", "d")]] ∧
      latestErrands.complete errands someErrands =
        .ok ⟨["name"], [[("name", "a")], [("name", "e")], [("name", "b")]]⟩ := by
  obtain ⟨htextual, hanswered⟩ := @complete_sorted errands latestErrands someErrands
  -- the only key is one of texts, so it is lawful on any rows
  have hlawful : LawfulOn (compareRows (typedKeys errands latestErrands.localSort)) Set.univ :=
    htextual (List.forall_mem_singleton.2 rfl)
  have hcompile : ∀ c ∈ latestErrands.residual,
      ∃ compiled, CompiledCondition.compile errands c = .ok compiled :=
    List.forall_mem_singleton.2 ⟨_, rfl⟩
  obtain ⟨filters, sorted, hfilters, hunique, hnulls, hanswer⟩ :=
    hanswered hcompile (hlawful.mono (Set.subset_univ _))
  obtain rfl := Except.ok.inj hfilters
  -- a sorted list is the one that was found, so the one written here is it
  have hsorted : [errand "c" "3", errand "a" "2", errand "e" "2", errand "b" .null,
      [("name", "d")]] = sorted :=
    (hunique _).1 (sortLocally_stablySorted (hlawful.mono (Set.subset_univ _)))
  subst hsorted
  exact ⟨hnulls, hanswer⟩

end Pushdown
