import Pushdown.Proofs.Condition.Truth
import Pushdown.Proofs.Order.Clash
import Pushdown.Proofs.Rows.Filter

/-!
# Conditions say what the filter says

A filter is taken apart into conditions, and rows are tested by these. What gets lost on the way is
the shape of the filter: a comparison with the literal in front is turned round, and the three truth
values become two, since a condition is met or not. The main statement, `meetsAll_iff_truthOf`, is
that a row meets all conditions exactly if the filter, evaluated as it is written in three values
(`truthOf`), is true of it.

A filter that is taken apart is a conjunction of comparisons, memberships and pattern matches, so
the proof follows `conditionsOf`: conjunction of three values is true if both parts are
(`Truth.and_eq_yes_iff`), and each of the other three has a lemma of its own.

* **Comparisons** (`test_comparisonOf`). Turned round, a comparison asks for the orders turned round
  (`exists_admits_swap`), and cell and value turned round compare the other way, whatever the type
  (`compareCells?_swap`).
* **Memberships** (`test_membershipOf`). A negated membership is true only if every equality is
  false. One that is unknown, because a listed value is null or cannot be compared, is not enough,
  and the test asks the same.
* **Pattern matches** (`test_matchOf`). A pattern that was accepted is the pattern tested.

The values on both sides are taken to be well formed, as every value is that a reader delivers: the
keys of an object are distinct. Equality of documents is symmetric for these only.
-/

namespace Pushdown

variable {schema : Schema} {row : Record} {path : String} {compiled : CompiledCondition}

/-! ### Cells -/

theorem compareCells?_eq_none {type : ColumnType} {a b : Json} (ha : a.isNull = true) :
    compareCells? type a b = none := by
  unfold compareCells?
  rw [ha]
  rfl

/-- **Two cells turned round**, null or not. -/
theorem compareCells?_swap {type : ColumnType} {a b : Json} (ha : a.WellFormed)
    (hb : b.WellFormed) :
    compareCells? type b a = (compareCells? type a b).map Ordering.swap := by
  unfold compareCells?
  -- a null on either side compares with nothing, and being null does not depend on the order
  rw [Bool.or_comm]
  split
  case isTrue => rfl
  case isFalse => exact compareValues?_swap ha hb

/-! ### Comparisons -/

/-- A condition that compares with one value tests the order of cell and value. -/
theorem testCell_comparison {op : Sql.BinaryOp} {v : Json}
    (hop : Operator.ofComparison? op = some compiled.condition.op)
    (hoperand : compiled.condition.operand = .scalar v) (cell : Json) :
    compiled.testCell cell = (compareCells? compiled.type cell v).any op.admits := by
  unfold CompiledCondition.testCell
  rw [hoperand]
  cases op with
  -- a connective is no comparison
  | and | or => exact absurd hop nofun
  | eq | notEq | lt | le | gt | ge =>
    rw [← Option.some.inj hop]
    dsimp only
    cases compareCells? compiled.type cell v <;> rfl

/-- Turning an operator round turns round the orders that it asks for. -/
theorem exists_admits_swap {op : Sql.BinaryOp} {op' : Operator}
    (hop : Operator.ofComparison? op = some op') : ∃ turned,
      Operator.ofComparison? turned = some op'.swapped ∧
      ∀ o, turned.admits o = op.admits o.swap := by
  cases op with
  | and | or => exact absurd hop nofun
  | eq => exact ⟨.eq, congrArg (Option.map Operator.swapped) hop, by decide⟩
  | notEq => exact ⟨.notEq, congrArg (Option.map Operator.swapped) hop, by decide⟩
  | lt => exact ⟨.gt, congrArg (Option.map Operator.swapped) hop, by decide⟩
  | le => exact ⟨.ge, congrArg (Option.map Operator.swapped) hop, by decide⟩
  | gt => exact ⟨.lt, congrArg (Option.map Operator.swapped) hop, by decide⟩
  | ge => exact ⟨.le, congrArg (Option.map Operator.swapped) hop, by decide⟩

/-- **A comparison with a value, on a row**: the order of cell and value is one that the operator
asks for. -/
theorem test_comparison {op : Sql.BinaryOp} {op' : Operator} {v : Json}
    (hop : Operator.ofComparison? op = some op')
    (hcompile : CompiledCondition.compile schema ⟨op', path, .scalar v⟩ = .ok compiled) :
    compiled.test row = (compareCells? ((schema.resolve path).getD .json) (cellAt row path) v).any
      op.admits := by
  obtain ⟨hcondition, htype, -⟩ := CompiledCondition.of_compile hcompile
  have hcompiledOp : Operator.ofComparison? op = some compiled.condition.op := by
    rw [hcondition, hop]
  have hoperand : compiled.condition.operand = .scalar v := by rw [hcondition]
  rw [CompiledCondition.test_eq_testCell, testCell_comparison hcompiledOp hoperand, hcondition,
    htype, Option.getD_some]
  -- a null cell fails the test at once, and compares with nothing
  cases hnull : (cellAt row path).isNull with
  | true => rw [compareCells?_eq_none hnull, Option.any_none, Bool.and_false]
  | false => rfl

/-- A comparison becomes a condition if it is one of a column with a literal, turned round if the
literal stands first. -/
theorem comparisonOf_eq_ok {op : Operator} {left right whole : Expression} {c : Condition}
    (h : comparisonOf op left right whole = .ok c) :
    (∃ path v, left = .column path ∧ right = .literal v ∧ c = ⟨op, path, .scalar v⟩) ∨
    (∃ path v, left = .literal v ∧ right = .column path ∧ c = ⟨op.swapped, path, .scalar v⟩) := by
  unfold comparisonOf at h
  split at h
  case h_1 path v => exact .inl ⟨path, v, rfl, rfl, (Except.ok.inj h).symm⟩
  case h_2 v path => exact .inr ⟨path, v, rfl, rfl, (Except.ok.inj h).symm⟩
  all_goals exact absurd h nofun

/-- **A comparison means what is written**, whichever operand stands first. -/
theorem test_comparisonOf {op : Sql.BinaryOp} {op' : Operator} {left right whole : Expression}
    {c : Condition} (hop : Operator.ofComparison? op = some op')
    (hcondition : comparisonOf op' left right whole = .ok c)
    (hcompile : CompiledCondition.compile schema c = .ok compiled)
    (hrow : (Json.object row).WellFormed) (hvalues : ∀ v ∈ c.operand.values, v.WellFormed) :
    compiled.test row = true ↔ comparisonTruth schema row op left right = .yes := by
  rcases comparisonOf_eq_ok hcondition with ⟨path, v, rfl, rfl, rfl⟩ | ⟨path, v, rfl, rfl, rfl⟩
  · -- the column first: the condition is the comparison as it is written
    rw [test_comparison hop hcompile]
    exact Truth.ofOrder_eq_yes_iff.symm
  · -- the condition has the cell first, the filter the value
    obtain ⟨turned, hturned, hadmits⟩ := exists_admits_swap hop
    have hswap : compareCells? ((schema.resolve path).getD .json) v (cellAt row path) =
        (compareCells? ((schema.resolve path).getD .json) (cellAt row path) v).map Ordering.swap :=
      compareCells?_swap (wellFormed_cellAt hrow path) (hvalues v (List.mem_singleton.2 rfl))
    rw [test_comparison hturned hcompile]
    refine Iff.trans ?_ Truth.ofOrder_eq_yes_iff.symm
    change _ ↔ Option.any op.admits
      (compareCells? ((schema.resolve path).getD .json) v (cellAt row path)) = true
    rw [hswap, Option.any_map, funext hadmits]

/-! ### Memberships -/

theorem eq_literal_of_listValue {e : Expression} {v : Json} (h : listValue e = .ok v) :
    e = .literal v := by
  unfold listValue at h
  split at h
  case h_1 => rw [Except.ok.inj h]
  case h_2 => exact absurd h nofun

/-- A membership becomes a condition if it is one of a column in a list of literals. -/
theorem membershipOf_eq_ok {operand : Expression} {items : List Expression} {negated : Bool}
    {c : Condition} (h : membershipOf operand items negated = .ok c) :
    ∃ path values, operand = .column path ∧ items = values.map .literal ∧
      c = ⟨if negated then .notIn else .isIn, path, .list values⟩ := by
  unfold membershipOf at h
  split at h
  case h_1 path =>
    obtain ⟨values, hvalues, rfl⟩ := map_eq_ok_iff.1 h
    have hitems : List.Forall₂ (fun e v => e = .literal v) items values :=
      (mapM_eq_ok_iff.1 hvalues).imp fun _ _ => eq_literal_of_listValue
    rw [← List.forall₂_map_right_iff, List.forall₂_eq_eq_eq] at hitems
    exact ⟨path, values, rfl, hitems, rfl⟩
  case h_2 => exact absurd h nofun

/-- Membership of a column in a list of literals, as equalities of its cell. -/
theorem membershipTruth_column (path : String) (values : List Json) :
    membershipTruth schema row (.column path) (values.map .literal) =
      if (cellAt row path).isNull then .unknown else .any (values.map fun v =>
        .ofOrder .eq (compareCells? ((schema.resolve path).getD .json) (cellAt row path) v)) := by
  unfold membershipTruth
  rw [List.map_map]
  rfl

/-- **A membership means what is written.** -/
theorem test_membershipOf {operand : Expression} {items : List Expression} {negated : Bool}
    {c : Condition} (hcondition : membershipOf operand items negated = .ok c)
    (hcompile : CompiledCondition.compile schema c = .ok compiled) :
    compiled.test row = true ↔
      (membershipTruth schema row operand items).negatedIf negated = .yes := by
  obtain ⟨path, values, rfl, rfl, rfl⟩ := membershipOf_eq_ok hcondition
  obtain ⟨hc, htype, -⟩ := CompiledCondition.of_compile hcompile
  have hpath : schema.resolve path = some compiled.type := htype
  rw [CompiledCondition.test_eq_testCell, hc, membershipTruth_column, hpath, Option.getD_some]
  dsimp only
  -- of a null both the test and the meaning say no
  cases hnull : (cellAt row path).isNull with
  | true => simp
  | false =>
    rw [Bool.not_false, Bool.true_and, if_neg Bool.false_ne_true]
    unfold CompiledCondition.testCell
    rw [hc]
    cases negated with
    -- one equality has to be true
    | false =>
      change (values.any _) = true ↔ Truth.any _ = .yes
      rw [Truth.any_eq_yes_iff, List.mem_map, List.any_eq_true]
      refine exists_congr fun v => and_congr_right fun _ => ?_
      dsimp only
      rw [Truth.ofOrder_eq_yes_iff]
      cases compareCells? compiled.type (cellAt row path) v <;> rfl
    -- every equality has to be false, one that is unknown is not enough
    | true =>
      change (values.all _) = true ↔ (Truth.any _).not = .yes
      rw [Truth.not_any_eq_yes_iff, List.forall_mem_map, List.all_eq_true]
      refine forall₂_congr fun v _ => ?_
      rw [Truth.not_ofOrder_eq_yes_iff]
      rfl

/-! ### Patterns -/

/-- A pattern match becomes a condition if it is one of a column with a literal text. -/
theorem matchOf_eq_ok {operand pattern : Expression} {negated : Bool} {c : Condition}
    (h : matchOf operand pattern negated = .ok c) :
    ∃ path p, operand = .column path ∧ pattern = .literal (.string p) ∧
      c = ⟨if negated then .notLike else .like, path, .scalar (.string p)⟩ := by
  unfold matchOf at h
  split at h
  case h_1 path p => exact ⟨path, p, rfl, rfl, (Except.ok.inj h).symm⟩
  all_goals exact absurd h nofun

/-- **A pattern match means what is written.** -/
theorem test_matchOf {operand pattern : Expression} {negated : Bool} {c : Condition}
    (hcondition : matchOf operand pattern negated = .ok c)
    (hcompile : CompiledCondition.compile schema c = .ok compiled) :
    compiled.test row = true ↔ (matchTruth row operand pattern).negatedIf negated = .yes := by
  obtain ⟨path, p, rfl, rfl, rfl⟩ := matchOf_eq_ok hcondition
  obtain ⟨hc, -, hpattern⟩ := CompiledCondition.of_compile hcompile
  -- the pattern that was accepted is the one that the condition holds
  have hp : compiled.pattern = some p := by
    cases negated with
    | false | true =>
      obtain ⟨pattern, haccepted, hsome⟩ := map_eq_ok_iff.1 hpattern
      rw [← hsome, (acceptedPattern_eq_ok_iff.1 haccepted).2]
  have hlikes (cell : Json) : compiled.likes cell = Wildcard.test p cell.bareText := by
    unfold CompiledCondition.likes
    rw [hp]
    rfl
  rw [CompiledCondition.test_eq_testCell, hc]
  unfold matchTruth CompiledCondition.testCell
  rw [hc]
  dsimp only [Expression.value?]
  -- of a null the match is unknown, and the condition is not met
  cases hnull : (cellAt row path).isNull with
  | true => simp
  | false =>
    rw [Bool.not_false, Bool.true_and, if_neg Bool.false_ne_true, ← hlikes]
    cases negated with
    | false => exact Truth.ofBool_eq_yes_iff.symm
    | true =>
      change (!_) = true ↔ (Truth.ofBool _).not = .yes
      rw [Truth.not_ofBool_eq_yes_iff, Bool.not_eq_true']

/-! ### Filters -/

/-- **A list stands behind a membership alone** in the conditions of a filter. -/
theorem isMembership_of_conditionsOf {e : Expression} {cs : Conditions}
    (hextract : conditionsOf e = .ok cs) :
    ∀ c ∈ cs, ∀ values, c.operand = .list values → c.op = .isIn ∨ c.op = .notIn := by
  -- only memberships have a list, so of the four forms one needs an argument
  fun_induction conditionsOf e generalizing cs with
  | case1 l r ihl ihr =>
    obtain ⟨ds, hds, hextract⟩ := bind_eq_ok_iff.1 hextract
    obtain ⟨es, hes, hextract⟩ := bind_eq_ok_iff.1 hextract
    obtain rfl := Except.ok.inj hextract
    exact List.forall_mem_append.2 ⟨ihl hds, ihr hes⟩
  | case3 l op r _ _ op' hop =>
    obtain ⟨c, hc, rfl⟩ := map_eq_ok_iff.1 hextract
    refine List.forall_mem_singleton.2 fun values hvalues => ?_
    obtain ⟨_, _, -, -, rfl⟩ | ⟨_, _, -, -, rfl⟩ := comparisonOf_eq_ok hc
    · exact absurd hvalues nofun
    · exact absurd hvalues nofun
  | case5 e items negated =>
    obtain ⟨c, hc, rfl⟩ := map_eq_ok_iff.1 hextract
    refine List.forall_mem_singleton.2 fun values hvalues => ?_
    obtain ⟨_, _, -, -, rfl⟩ := membershipOf_eq_ok hc
    cases negated with
    | false => exact .inl rfl
    | true => exact .inr rfl
  | case6 e pattern negated =>
    obtain ⟨c, hc, rfl⟩ := map_eq_ok_iff.1 hextract
    refine List.forall_mem_singleton.2 fun values hvalues => ?_
    obtain ⟨_, _, -, -, rfl⟩ := matchOf_eq_ok hc
    exact absurd hvalues nofun
  -- whatever is no conjunction of these has no conditions
  | case2 | case4 | case7 => exact absurd hextract nofun

theorem Condition.holds_of_compile {c : Condition}
    (h : CompiledCondition.compile schema c = .ok compiled) (row : Record) :
    c.holds schema row = compiled.test row := by
  unfold Condition.holds
  rw [h]

/-- A part of a filter that is one condition is met as the condition is. -/
theorem holdAll_leaf_iff {leaf : Except QueryError Condition} {cs : Conditions} {t : Truth}
    (hleaf : leaf.map (fun c => [c]) = .ok cs)
    (hcompile : ∀ c ∈ cs, ∃ compiled, CompiledCondition.compile schema c = .ok compiled)
    (htest : ∀ c compiled, c ∈ cs → leaf = .ok c →
      CompiledCondition.compile schema c = .ok compiled → (compiled.test row = true ↔ t = .yes)) :
    cs.holdAll schema row = true ↔ t = .yes := by
  obtain ⟨c, hc, rfl⟩ := map_eq_ok_iff.1 hleaf
  -- a leaf is one condition, so all of them is the one
  have hmem : c ∈ [c] := List.mem_singleton.2 rfl
  obtain ⟨compiled, hcompiled⟩ := hcompile c hmem
  unfold Conditions.holdAll
  rw [List.all_cons, List.all_nil, Bool.and_true, Condition.holds_of_compile hcompiled]
  exact htest c compiled hmem hc hcompiled

/-- A comparison in a filter is true as the comparison is. -/
theorem truthOf_comparison {op : Sql.BinaryOp} {op' : Operator}
    (hop : Operator.ofComparison? op = some op') (l r : Expression) :
    truthOf schema row (.binary l op r) = comparisonTruth schema row op l r := by
  cases op with
  | and | or => exact absurd hop nofun
  | eq | notEq | lt | le | gt | ge => rfl

/-- **The conditions of a filter hold of a row exactly if the filter is true of it.** -/
theorem holdAll_iff_truthOf {e : Expression} {cs : Conditions} (hextract : conditionsOf e = .ok cs)
    (hcompile : ∀ c ∈ cs, ∃ compiled, CompiledCondition.compile schema c = .ok compiled)
    (hrow : (Json.object row).WellFormed)
    (hvalues : ∀ c ∈ cs, ∀ v ∈ c.operand.values, v.WellFormed) :
    cs.holdAll schema row = true ↔ truthOf schema row e = .yes := by
  fun_induction conditionsOf e generalizing cs with
  | case1 l r ihl ihr =>
    obtain ⟨ds, hds, hextract⟩ := bind_eq_ok_iff.1 hextract
    obtain ⟨es, hes, hextract⟩ := bind_eq_ok_iff.1 hextract
    obtain rfl := Except.ok.inj hextract
    -- the hypotheses are about all conditions, so each half has its own
    obtain ⟨hcompileL, hcompileR⟩ := List.forall_mem_append.1 hcompile
    obtain ⟨hvaluesL, hvaluesR⟩ := List.forall_mem_append.1 hvalues
    change (ds ++ es).all _ = true ↔ (truthOf schema row l).and (truthOf schema row r) = .yes
    rw [List.all_append, Bool.and_eq_true, Truth.and_eq_yes_iff]
    exact and_congr (ihl hds hcompileL hvaluesL) (ihr hes hcompileR hvaluesR)
  | case3 l op r _ _ op' hop =>
    rw [truthOf_comparison hop]
    exact holdAll_leaf_iff hextract hcompile fun c _ hmem hc hcompiled =>
      test_comparisonOf hop hc hcompiled hrow (hvalues c hmem)
  | case5 e items negated =>
    exact holdAll_leaf_iff hextract hcompile fun _ _ _ hc hcompiled =>
      test_membershipOf hc hcompiled
  | case6 e pattern negated =>
    exact holdAll_leaf_iff hextract hcompile fun _ _ _ hc hcompiled => test_matchOf hc hcompiled
  -- whatever is no conjunction of these has no conditions
  | case2 | case4 | case7 => exact absurd hextract nofun

/-- **A row meets the conditions of a filter exactly if the filter is true of it.** The conditions
are those that the filter was taken apart into, compiled against the schema; what the filter says is
in `truthOf`. -/
theorem meetsAll_iff_truthOf {e : Expression} {cs : Conditions}
    {filters : List CompiledCondition} (hextract : conditionsOf e = .ok cs)
    (hcompile : compileAll schema cs = .ok filters) (hrow : (Json.object row).WellFormed)
    (hvalues : ∀ c ∈ cs, ∀ v ∈ c.operand.values, v.WellFormed) :
    meetsAll filters row = true ↔ truthOf schema row e = .yes := by
  have hcompiles (c : Condition) (hc : c ∈ cs) :
      ∃ compiled, CompiledCondition.compile schema c = .ok compiled := by
    -- every condition of a filter has compiled, as all of them together have
    obtain ⟨compiled, -, hcompiled⟩ := exists_of_mem_left (mapM_eq_ok_iff.1 hcompile) hc
    exact ⟨compiled, hcompiled⟩
  rw [meetsAll_eq_holdAll hcompile]
  exact holdAll_iff_truthOf hextract hcompiles hrow hvalues

/-! ### An instance -/

/-- Books with a price and whatever else is known of them. -/
def books : Schema :=
  ⟨"books", [.output "title" .text, .output "price" .float, .output "facts" .json]⟩

/-- Not too dear, of a language other than these two, and no handbook. -/
def affordable : Expression :=
  .binary (.binary (.literal (.ofNat 20)) .gt (.column "price")) .and
    (.binary (.inList (.column "facts.language") [.literal "la", .literal "grc"] true) .and
      (.like (.column "title") (.literal "%handbook") true))

/-- A book. The price is a text, as some sources write it. -/
def book (title price : String) (facts : List (String × Json)) : Record :=
  [("title", .string title), ("price", .string price), ("facts", .object facts)]

/-- The price of the first book is less than twenty as a number, and not as a text. The language of
the second is not known, so the filter is unknown of it and the conditions are not met. -/
theorem meetsAll_iff_truthOf_affordable :
    ∃ cs filters, conditionsOf affordable = .ok cs ∧ compileAll books cs = .ok filters ∧
      cs.map (·.op) = [.lt, .notIn, .notLike] ∧
      truthOf books (book "grammar" "7.5" [("language", "de")]) affordable = .yes ∧
      meetsAll filters (book "grammar" "7.5" [("language", "de")]) = true ∧
      truthOf books (book "atlas" "7.5" []) affordable = .unknown ∧
      meetsAll filters (book "atlas" "7.5" []) = false := by
  let cs : Conditions :=
    [⟨.lt, "price", .scalar (.ofNat 20)⟩, ⟨.notIn, "facts.language", .list ["la", "grc"]⟩,
      ⟨.notLike, "title", .scalar "%handbook"⟩]
  have hextract : conditionsOf affordable = .ok cs := rfl
  have hcompile : compileAll books cs = .ok _ := rfl
  have hvalues : ∀ c ∈ cs, ∀ v ∈ c.operand.values, v.WellFormed := by
    simp [cs, Operand.values, Json.WellFormed, Json.ofNat]
  have hyes : truthOf books (book "grammar" "7.5" [("language", "de")]) affordable = .yes := by
    decide +kernel
  have hunknown : truthOf books (book "atlas" "7.5" []) affordable = .unknown := by
    decide +kernel
  have hmet (row : Record) (hrow : (Json.object row).WellFormed) :=
    meetsAll_iff_truthOf hextract hcompile hrow hvalues
  -- both directions are used: the filter is true of the first book and unknown of the second
  refine ⟨cs, _, hextract, hcompile, rfl, hyes, (hmet _ ?_).2 hyes, hunknown,
    Bool.eq_false_iff.2 fun h => absurd (hunknown.symm.trans ((hmet _ ?_).1 h)) (by decide)⟩
  all_goals simp [book, Json.WellFormed, Json.WellFormedEntries, Record.keys]

end Pushdown
