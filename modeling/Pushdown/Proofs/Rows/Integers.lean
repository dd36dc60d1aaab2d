import Mathlib.Order.Compare
import Pushdown.Proofs.Condition.Extraction
import Pushdown.Proofs.Number.Rounding
import Pushdown.Proofs.Order.Cells
import Pushdown.Proofs.Registry.Handover
import Pushdown.Proofs.Statement.Acceptance
import Pushdown.Tables.Dataset

/-!
# Columns of integers

Cells and literals of a column of integers are compared as doubles. Of integers of more than
fifty-three bits a double keeps fifty-three, so conditions and orders on such a column go by what is
left of the integers, `Number.rounded`. That is said for all comparisons and for both directions of
an order in `integers_compare`, together with what follows: two integers are compared exactly if
they are the same or are not rounded to the same.
-/

namespace Pushdown

open Number

variable {schema : Schema} {path : String} {i j : Int}

/-! ### Comparisons of integers -/

/-- **A comparison holds of two integers.** Connectives compare nothing. -/
def Sql.BinaryOp.Compares : Sql.BinaryOp → Int → Int → Prop
  | .eq, i, j => i = j
  | .notEq, i, j => i ≠ j
  | .lt, i, j => i < j
  | .le, i, j => i ≤ j
  | .gt, i, j => j < i
  | .ge, i, j => j ≤ i
  | .and, _, _ => False
  | .or, _, _ => False

/-- A comparison holds of two integers if it asks for their order. -/
theorem Sql.BinaryOp.admits_compare_iff (op : Sql.BinaryOp) (i j : Int) :
    op.admits (compare i j) = true ↔ op.Compares i j := by
  -- an order is admitted by some comparisons, and these are the ones that hold there
  rcases Int.lt_trichotomy i j with h | rfl | h
  · rw [compare_lt_iff_lt.2 h]
    cases op <;> simp [admits, Compares] <;> omega
  · rw [compare_eq_iff_eq.2 rfl]
    cases op <;> simp [admits, Compares]
  · rw [compare_gt_iff_gt.2 h]
    cases op <;> simp [admits, Compares] <;> omega

/-- **Two cells of integers**, under a type of integers. -/
theorem compareCells?_integers (hi : InRange i) (hj : InRange j) :
    compareCells? .integer (.ofInt i) (.ofInt j) = some (compare (rounded i) (rounded j)) := by
  have hcells : compareCells? .integer (.ofInt i) (.ofInt j) =
      (Double.ofInt i).compare? (Double.ofInt j) := rfl
  -- keys are in the order of the rounded integers, by the two directions of one statement
  have hkeys : compare (Double.ofInt i).key (Double.ofInt j).key =
      compare (rounded i) (rounded j) := by
    have hlt := Double.key_ofInt_lt_iff hi hj
    have hgt := Double.key_ofInt_lt_iff hj hi
    rcases Int.lt_trichotomy (rounded i) (rounded j) with h | h | h
    · rw [compare_lt_iff_lt.2 h, compare_lt_iff_lt.2 (hlt.2 h)]
    · rw [compare_eq_iff_eq.2 h, compare_eq_iff_eq]
      omega
    · rw [compare_gt_iff_gt.2 h, compare_gt_iff_gt.2 (hgt.2 h)]
  rw [hcells, Double.compare?, Double.isNaN_ofInt, Double.isNaN_ofInt, hkeys]
  rfl

/-! ### Conditions and orders -/

/-- **Two integers are compared exactly in a column**: a cell with a literal by all comparisons, and
two cells by an order in either direction. -/
structure ComparesExactly (schema : Schema) (path : String) (i j : Int) : Prop where
  /-- Conditions hold as the comparisons do. -/
  condition : ∀ op op' compiled row, Operator.ofComparison? op = some op' →
    CompiledCondition.compile schema ⟨op', path, .scalar (.ofInt j)⟩ = .ok compiled →
    cellAt row path = .ofInt i → (compiled.test row = true ↔ op.Compares i j)
  /-- Rows are ordered as the integers are. -/
  order : ∀ direction row row', cellAt row path = .ofInt i → cellAt row' path = .ofInt j →
    compareRows (typedKeys schema [⟨path, direction⟩]) row row' = direction.apply (compare i j)

/-- A comparison of an integer column with an integer compiles. -/
theorem compile_integer {op : Sql.BinaryOp} {op' : Operator}
    (hresolve : schema.resolve path = some .integer)
    (hop : Operator.ofComparison? op = some op') (j : Int) :
    CompiledCondition.compile schema ⟨op', path, .scalar (.ofInt j)⟩ =
      .ok ⟨⟨op', path, .scalar (.ofInt j)⟩, .integer, none⟩ := by
  have hrequire : schema.require path .filter = .ok .integer := by
    unfold Schema.require
    rw [hresolve]
  -- a comparison has no pattern
  have hpattern : patternOf ⟨op', path, .scalar (.ofInt j)⟩ = .ok none := by
    cases op with
    | and | or => exact absurd hop nofun
    | eq | notEq | lt | le | gt | ge =>
      obtain rfl := Option.some.inj hop
      rfl
  unfold CompiledCondition.compile
  rw [hrequire, hpattern]
  rfl

/-- **A condition on integers** is one on the rounded integers. -/
theorem test_integer {op : Sql.BinaryOp} {op' : Operator} {compiled : CompiledCondition}
    {row : Record} (hresolve : schema.resolve path = some .integer) (hi : InRange i)
    (hj : InRange j) (hop : Operator.ofComparison? op = some op')
    (hcompile : CompiledCondition.compile schema ⟨op', path, .scalar (.ofInt j)⟩ = .ok compiled)
    (hcell : cellAt row path = .ofInt i) :
    compiled.test row = true ↔ op.Compares (rounded i) (rounded j) := by
  rw [test_comparison hop hcompile, hresolve, hcell, Option.getD_some,
    compareCells?_integers hi hj, Option.any_some, Sql.BinaryOp.admits_compare_iff]

/-- **An order of integers** is one of the rounded integers. -/
theorem compareRows_integer {direction : Direction} {row row' : Record}
    (hresolve : schema.resolve path = some .integer) (hi : InRange i) (hj : InRange j)
    (hcell : cellAt row path = .ofInt i) (hcell' : cellAt row' path = .ofInt j) :
    compareRows (typedKeys schema [⟨path, direction⟩]) row row' =
      direction.apply (compare (rounded i) (rounded j)) := by
  have hkeys : typedKeys schema [⟨path, direction⟩] = [⟨path, direction, .integer⟩] := by
    unfold typedKeys
    rw [List.map_singleton, hresolve]
    rfl
  have horder : orderCells .integer direction (.ofInt i) (.ofInt j) =
      direction.apply (compare (rounded i) (rounded j)) := by
    -- neither cell is null, and both are numbers, so they are compared
    change direction.apply ((compareCells? .integer (.ofInt i) (.ofInt j)).getD _) = _
    rw [compareCells?_integers hi hj, Option.getD_some]
  rw [hkeys, compareRows, compareRows, Ordering.then_eq]
  change orderCells .integer direction (cellAt row path) (cellAt row' path) = _
  rw [hcell, hcell', horder]

/-- A row that has the integer in the column. -/
theorem cellAt_singleton (path : String) (v : Json) : cellAt [(path, v)] path = v := by
  have hget : Record.get? [(path, v)] path = some v := by
    rw [Record.get?_cons, if_pos rfl]
  unfold cellAt
  rw [lookup_of_get? hget]
  rfl

/-- **Two integers are compared exactly if they are not rounded to the same**, or are the same. -/
theorem comparesExactly_iff (hresolve : schema.resolve path = some .integer) (hi : InRange i)
    (hj : InRange j) : ComparesExactly schema path i j ↔ i = j ∨ rounded i ≠ rounded j := by
  rw [← compare_rounded_eq_iff]
  constructor
  · intro h
    -- two rows that have nothing but the integers tell the orders apart
    have hcell := cellAt_singleton path (.ofInt i)
    have hcell' := cellAt_singleton path (.ofInt j)
    have hexact := h.order .ascending _ _ hcell hcell'
    exact (compareRows_integer hresolve hi hj hcell hcell').symm.trans hexact
  · intro h
    -- both meanings depend on the order of the two integers alone
    refine ⟨fun op op' compiled row hop hcompile hcell => ?_,
      fun direction row row' hcell hcell' => ?_⟩
    · rw [test_integer hresolve hi hj hop hcompile hcell, ← op.admits_compare_iff, h,
        op.admits_compare_iff]
    · rw [compareRows_integer hresolve hi hj hcell hcell', h]

/-- **A column of integers compares what is left of its integers with fifty-three bits.** Every
comparison with an integer compiles, and it holds of a row exactly if it holds of the rounded
integers; an order puts two rows as the rounded integers are. So two integers are compared exactly
if they are the same or not rounded to the same, and all integers of at most fifty-three bits are.
-/
theorem integers_compare {c : Column} (hcolumn : schema.column? path = some c)
    (htype : c.type = .integer) (hi : InRange i) (hj : InRange j) :
    (∀ op op', Operator.ofComparison? op = some op' → ∃ compiled,
      CompiledCondition.compile schema ⟨op', path, .scalar (.ofInt j)⟩ = .ok compiled ∧
      ∀ row, cellAt row path = .ofInt i →
        (compiled.test row = true ↔ op.Compares (rounded i) (rounded j))) ∧
    (∀ direction row row', cellAt row path = .ofInt i → cellAt row' path = .ofInt j →
      compareRows (typedKeys schema [⟨path, direction⟩]) row row' =
        direction.apply (compare (rounded i) (rounded j))) ∧
    (ComparesExactly schema path i j ↔ i = j ∨ rounded i ≠ rounded j) ∧
    (i.natAbs ≤ 2 ^ 53 → j.natAbs ≤ 2 ^ 53 → ComparesExactly schema path i j) := by
  have hresolve : schema.resolve path = some .integer := by
    unfold Schema.resolve
    rw [hcolumn]
    exact congrArg some htype
  refine ⟨fun op op' hop => ?_, fun direction row row' hcell hcell' => ?_,
    comparesExactly_iff hresolve hi hj, fun hi' hj' => ?_⟩
  · have hcompile := compile_integer hresolve hop j
    exact ⟨_, hcompile, fun row hcell => test_integer hresolve hi hj hop hcompile hcell⟩
  · exact compareRows_integer hresolve hi hj hcell hcell'
  · -- integers this short are not rounded at all
    rw [comparesExactly_iff hresolve hi hj, rounded_eq_self hi', rounded_eq_self hj']
    exact Decidable.em (i = j)

/-! ### Instances -/

/-- A table of counts. -/
def counts : Schema := ⟨"t", [.output "n" .integer]⟩

/-- The greatest integers with a sign and without are compared exactly, in spite of their length. -/
theorem integers_compare_greatest :
    ComparesExactly counts "n" 9223372036854775807 18446744073709551615 := by
  -- they differ by a bit, which is more than rounding takes
  have hrounded : rounded 9223372036854775807 ≠ rounded 18446744073709551615 := by decide +kernel
  exact (integers_compare (c := .output "n" .integer) rfl rfl (by decide) (by decide)).2.2.1.2
    (.inr hrounded)

/-- A table of one count, which has fifty-four bits. -/
def longCount : Table Unit :=
  .ofPipeline (Dataset.pipeline counts) (.ofRecords [.object [("n", .ofInt 9007199254740993)]])

/-- **Two integers of fifty-four bits are taken for the same**: a filter for one finds the other,
and an order does not tell them apart. -/
theorem longCount_found_as_another :
    (Registry.execute [("t", longCount)] "SELECT n FROM t WHERE n = 9007199254740992").run.run () =
      (.ok (.rows ⟨["n"], [[("n", .ofInt 9007199254740993)]]⟩), ()) ∧
    compareRows (typedKeys counts [⟨"n", .ascending⟩]) [("n", .ofInt 9007199254740992)]
      [("n", .ofInt 9007199254740993)] = .eq := by
  have htokens : Sql.tokens "SELECT n FROM t WHERE n = 9007199254740992".toList =
      .ok [.word (.bare "SELECT") "SELECT", .word (.bare "n") "N", .word (.bare "FROM") "FROM",
        .word (.bare "t") "T", .word (.bare "WHERE") "WHERE", .word (.bare "n") "N", .symbol "=",
        .number "9007199254740992" false] :=
    eq_ok_of_toOption (by decide +kernel)
  have hread : Sql.Statement.readAll "SELECT n FROM t WHERE n = 9007199254740992" =
      .ok [.query (.plain [.expr (.column [.bare "n"]) none] "t"
        (some (.binary (.column [.bare "n"]) .eq (.number "9007199254740992" false))))] :=
    Sql.Statement.readAll_of_tokens htokens (by with_unfolding_all rfl)
  have hstatement : Statement.read "SELECT n FROM t WHERE n = 9007199254740992" =
      .ok (.select ⟨[.expr (.column "n") none], some ⟨"t", none⟩,
        some (.binary (.column "n") .eq (.literal (.ofInt 9007199254740992))), [], none, none⟩) :=
    (Statement.read_of_readAll hread).trans rfl
  have hfind : Registry.find? [("t", longCount)] "t" = some longCount :=
    Registry.find?_singleton (by decide +kernel) longCount
  constructor
  · rw [Registry.execute_run, Registry.handover_eq_ok_iff.2 ⟨_, hstatement, ⟨"t", rfl, hfind⟩, rfl⟩]
    rfl
  · decide +kernel

end Pushdown
