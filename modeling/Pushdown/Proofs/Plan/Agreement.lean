import Pushdown.Proofs.Plan.Columns
import Pushdown.Proofs.Plan.Planned
import Pushdown.Proofs.Rows.Filter
import Pushdown.Rows.Completion

/-!
# What the local part of a plan reads

The local part of a plan looks at rows in three places: conditions are checked, rows are compared,
and columns are taken. In each of them it looks at the cells of some paths alone, and the paths of
all three are the needed columns of the plan. So rows that `AgreeOn` these columns cannot be told
apart: whatever else they hold, they are completed to the same answer, `Plan.complete_congr`. The
needed columns are those that the request of a plan asks for, so a source may leave out all others,
`Plan.complete_eq_of_agreeOn_requested`.

In the statement two lists of rows go side by side, related row by row. Filtering keeps or drops
related rows together, sorting puts them in the same places (`forall₂_sortLocally`), and a window
cuts both lists alike, so all that is left are equal projections in the end.
-/

namespace Pushdown

variable {schema : Schema} {columns columns' : List String} {row row' : Record}
  {rows rows' : List Record}

/-- **Rows that agree on columns**: they have the same cell at each path, a missing one being
null. -/
def AgreeOn (columns : List String) (row row' : Record) : Prop :=
  ∀ path ∈ columns, cellAt row path = cellAt row' path

instance : Decidable (AgreeOn columns row row') :=
  inferInstanceAs (Decidable (∀ path ∈ columns, cellAt row path = cellAt row' path))

theorem AgreeOn.mono (hsub : columns ⊆ columns') (h : AgreeOn columns' row row') :
    AgreeOn columns row row' := fun path hpath => h path (hsub hpath)

/-! ### Conditions -/

/-- A condition looks at the cell of its column. -/
theorem Condition.holds_congr {c : Condition} (h : cellAt row c.column = cellAt row' c.column) :
    c.holds schema row = c.holds schema row' := by
  unfold holds
  cases hcompile : CompiledCondition.compile schema c with
  | error e => rfl
  | ok compiled =>
    -- a condition that compiles is tested by one cell
    obtain ⟨rfl, -⟩ := CompiledCondition.of_compile hcompile
    dsimp only
    rw [CompiledCondition.test_eq_testCell, CompiledCondition.test_eq_testCell, h]

theorem Conditions.holdAll_congr {cs : Conditions} (h : AgreeOn (cs.map (·.column)) row row') :
    cs.holdAll schema row = cs.holdAll schema row' := by
  unfold holdAll
  rw [Bool.eq_iff_iff, List.all_eq_true, List.all_eq_true]
  refine forall₂_congr fun c hc => ?_
  rw [Condition.holds_congr (h c.column (List.mem_map_of_mem hc))]

/-! ### Orders -/

/-- An order looks at the cells of its keys. -/
theorem compareRows_congr {keys : List TypedKey} {a a' b b' : Record}
    (ha : AgreeOn (keys.map (·.column)) a a') (hb : AgreeOn (keys.map (·.column)) b b') :
    compareRows keys a b = compareRows keys a' b' := by
  induction keys with
  | nil => rfl
  | cons k keys ih =>
    -- the first key looks at one column, the others at those behind it
    have hcell {row row' : Record} (h : AgreeOn ((k :: keys).map (·.column)) row row') :
        k.cell row = k.cell row' := h k.column List.mem_cons_self
    have hrest := List.subset_cons_self k.column (keys.map (·.column))
    rw [compareRows, compareRows, hcell ha, hcell hb, ih (ha.mono hrest) (hb.mono hrest)]

section

variable {R : Record → Record → Prop} {less : Record → Record → Bool}
  (hless : ∀ a a' b b', R a a' → R b b' → less a b = less a' b')
include hless

theorem forall₂_insertLast (hrow : R row row') (h : List.Forall₂ R rows rows') :
    List.Forall₂ R (insertLast less row rows) (insertLast less row' rows') := by
  induction h with
  | nil => exact .cons hrow .nil
  | cons hlast hbefore ih =>
    -- both comparisons come out alike, so both rows stop here or both go on
    rw [insertLast, insertLast, hless _ _ _ _ hrow hlast]
    split
    case isTrue => exact .cons hlast ih
    case isFalse => exact .cons hrow (.cons hlast hbefore)

theorem forall₂_sortRows (h : List.Forall₂ R rows rows') :
    List.Forall₂ R (sortRows less rows) (sortRows less rows') := by
  refine List.rel_reverse (List.rel_foldl ?_ .nil h)
  exact fun _ _ hsorted _ _ hrow => forall₂_insertLast hless hrow hsorted

end

/-- **Related rows are sorted alike** if they agree on the columns of the order. -/
theorem forall₂_sortLocally (schema : Schema) {R : Record → Record → Prop} {keys : List OrderKey}
    (hR : ∀ a a', R a a' → AgreeOn (keys.map (·.column)) a a') (h : List.Forall₂ R rows rows') :
    List.Forall₂ R (sortLocally schema keys rows) (sortLocally schema keys rows') := by
  unfold sortLocally
  split
  case isTrue => exact h
  case isFalse =>
    -- the keys of an order carry their types along, and their columns stay as they are
    have hcolumns : (typedKeys schema keys).map (·.column) = keys.map (·.column) := by
      rw [typedKeys, List.map_map]
      rfl
    refine forall₂_sortRows (fun a a' b b' ha hb => ?_) h
    rw [compareRows_congr (hcolumns ▸ hR a a' ha) (hcolumns ▸ hR b b' hb)]

/-! ### Windows and projections -/

theorem forall₂_cutWindow {R : Record → Record → Prop} (offset limit : Option Nat)
    (h : List.Forall₂ R rows rows') :
    List.Forall₂ R (cutWindow offset limit rows) (cutWindow offset limit rows') := by
  cases limit with
  | none => exact List.forall₂_drop _ h
  | some n => exact List.forall₂_take n (List.forall₂_drop _ h)

/-- A projection looks at the cells of its paths. -/
theorem projectRow_congr {output : List ProjectedColumn}
    (h : AgreeOn (output.map (·.path)) row row') : projectRow output row = projectRow output row' :=
  congrArg Record.ofList (List.map_congr_left fun c hc =>
    congrArg (Prod.mk c.outputName) (h c.path (List.mem_map_of_mem hc)))

/-! ### Plans -/

/-- Output, conditions and order each have their part of the needed columns. -/
theorem agreeOn_neededColumns_iff {output : List ProjectedColumn} {residual : Conditions}
    {sort : List OrderKey} : AgreeOn (neededColumns output residual sort) row row' ↔
      AgreeOn (output.map (·.path)) row row' ∧ AgreeOn (residual.map (·.column)) row row' ∧
        AgreeOn (sort.map (·.column)) row row' := by
  -- each of the three parts has its own paths, and a path belongs to one of them at least
  unfold AgreeOn neededColumns
  simp only [mem_firstOccurrences, List.mem_append, or_imp, forall_and, and_assoc]

/-- **The local part of a plan reads the needed columns alone.** -/
theorem Plan.complete_congr {p : Plan} (h : List.Forall₂
    (AgreeOn (neededColumns p.output p.residual p.localSort)) rows rows') :
    p.complete schema rows = p.complete schema rows' := by
  unfold complete
  cases hfilters : compileAll schema p.residual with
  | error e => rfl
  | ok filters =>
    have hkept : List.Forall₂ (AgreeOn (neededColumns p.output p.residual p.localSort))
        (rows.filter (meetsAll filters)) (rows'.filter (meetsAll filters)) := by
      -- a condition keeps both of two related rows or neither
      refine List.rel_filter (fun row row' hrow => ?_) h
      dsimp only
      rw [meetsAll_eq_holdAll hfilters, meetsAll_eq_holdAll hfilters,
        Conditions.holdAll_congr (agreeOn_neededColumns_iff.1 hrow).2.1]
    have hsorted := forall₂_sortLocally schema
      (fun _ _ hrow => (agreeOn_neededColumns_iff.1 hrow).2.2) hkept
    have hwindow := forall₂_cutWindow p.localOffset p.localLimit hsorted
    -- behind the window nothing but the projection is left, which is the same on related rows
    refine congrArg (fun answer => (Except.ok (RowSet.mk p.outputNames answer) :
      Except QueryError RowSet)) ?_
    exact map_eq_map_of_forall₂ hwindow fun _ _ hrow =>
      projectRow_congr (agreeOn_neededColumns_iff.1 hrow).1

/-- **What a request does not ask for has no part in the answer.** Rows in which the same is found
under every column that the request of a plan names, be it nothing in place of null, are completed
to the same answer or fail alike. -/
theorem Plan.complete_eq_of_agreeOn_requested {spec : Spec} {capabilities : Capabilities}
    {dialect : Option Dialect} {p : Plan} (hplan : plan spec schema capabilities dialect = .ok p)
    (hrows : List.Forall₂ (AgreeOn p.remote.columns) rows rows') :
    p.complete schema rows = p.complete schema rows' := by
  have hcolumns : p.remote.columns = neededColumns p.output p.residual p.localSort :=
    (Planned.of_plan hplan).columns
  rw [hcolumns] at hrows
  exact Plan.complete_congr hrows

/-- Reviews of places, which are objects. -/
def reviews : Schema :=
  ⟨"reviews", [.output "id" .integer, .output "stars" .integer, .output "place" .json,
    .output "body" .text]⟩

/-- The towns of good reviews from the second on, the latest review first. -/
def goodTowns : Spec where
  table := some "reviews"
  projection := .columns [⟨"place.town", some "town"⟩]
  conditions := [⟨.gt, "stars", .scalar (.ofInt 2)⟩]
  orderBy := [⟨"id", .descending⟩]
  limit := some 2
  offset := some 1

def threeReviews : List Record :=
  [[("id", .ofInt 1), ("stars", .ofInt 5),
      ("place", .object [("town", "Ulm"), ("street", "Gasse")]), ("body", "fine")],
    [("id", .ofInt 2), ("stars", .ofInt 1), ("place", .object [("town", "Bonn")])],
    [("id", .ofInt 3), ("stars", .ofInt 4), ("place", .null), ("body", "good")]]

/-- The same reviews without bodies and streets, one with a key that is a whole path. -/
def threeReviewsInBrief : List Record :=
  [[("id", .ofInt 1), ("stars", .ofInt 5), ("place.town", "Ulm")],
    [("id", .ofInt 2), ("stars", .ofInt 1), ("place", .object [("town", "Bonn")])],
    [("id", .ofInt 3), ("stars", .ofInt 4)]]

/-- **Condition, order and projection do not miss what is left out.** -/
theorem Plan.complete_eq_of_agreeOn_requested_reviews :
    ∃ p, plan goodTowns reviews .nothing none = .ok p ∧
      p.remote.columns = ["place.town", "stars", "id"] ∧
      List.Forall₂ (AgreeOn p.remote.columns) threeReviews threeReviewsInBrief ∧
      p.complete reviews threeReviews = .ok ⟨["town"], [[("town", "Ulm")]]⟩ ∧
      p.complete reviews threeReviewsInBrief = .ok ⟨["town"], [[("town", "Ulm")]]⟩ := by
  have hplan : plan goodTowns reviews .nothing none = .ok _ := rfl
  have hrows : List.Forall₂ (AgreeOn ["place.town", "stars", "id"])
      threeReviews threeReviewsInBrief :=
    .cons (by decide +kernel) (.cons (by decide +kernel) (.cons (by decide +kernel) .nil))
  refine ⟨_, hplan, rfl, hrows, rfl, ?_⟩
  rw [← Plan.complete_eq_of_agreeOn_requested hplan hrows]
  rfl

end Pushdown
