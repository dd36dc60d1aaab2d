import Pushdown.Proofs.Condition.Extraction

/-!
# Filters that are conditions

A filter is a tree of conjunctions over **conjuncts**, the expressions at which the tree of `AND`
ends. Which conjuncts can be a condition, and which condition they are, is `Expression.ReadsAs`,
with one rule for each form: a comparison with the column first or the literal first, a membership
of a column in a list of literals, and a match of a column with a literal text. There is no rule for
a disjunction or a negation.

`conditionsOf_iff_readsAs` is that the conditions of a filter are those of its conjuncts, one for
each and in their order. So the shape of the tree does not count, no conjunct is passed over, and
one that no rule is about has the whole filter refused. What `conditionsOf` does with a conjunct is
in its cases, so the proof follows them, and a case that refuses has no rule.
-/

namespace Pushdown

/-! ### Specification -/

/-- **The conjuncts of a filter**, from left to right. -/
def Expression.conjuncts : Expression → List Expression
  | .binary l .and r => l.conjuncts ++ r.conjuncts
  | e => [e]

/-- **A sign of comparison as an operator**: the one for a column that stands first, and the one for
a column that stands second. -/
inductive ComparesAs : Sql.BinaryOp → (columnFirst columnSecond : Operator) → Prop where
  | eq : ComparesAs .eq .eq .eq
  | notEq : ComparesAs .notEq .notEq .notEq
  | lt : ComparesAs .lt .lt .gt
  | le : ComparesAs .le .le .ge
  | gt : ComparesAs .gt .gt .lt
  | ge : ComparesAs .ge .ge .le

/-- **The condition that a conjunct is.** -/
inductive Expression.ReadsAs : Expression → Condition → Prop where
  /-- A column compared with a literal. -/
  | columnFirst {op : Sql.BinaryOp} {first second : Operator} (path : String) (v : Json) :
    ComparesAs op first second →
      ReadsAs (.binary (.column path) op (.literal v)) ⟨first, path, .scalar v⟩
  /-- A literal compared with a column. -/
  | columnSecond {op : Sql.BinaryOp} {first second : Operator} (path : String) (v : Json) :
    ComparesAs op first second →
      ReadsAs (.binary (.literal v) op (.column path)) ⟨second, path, .scalar v⟩
  /-- A column in a list of literals. -/
  | isIn (path : String) (values : List Json) :
    ReadsAs (.inList (.column path) (values.map .literal) false) ⟨.isIn, path, .list values⟩
  /-- A column that is not in a list of literals. -/
  | notIn (path : String) (values : List Json) :
    ReadsAs (.inList (.column path) (values.map .literal) true) ⟨.notIn, path, .list values⟩
  /-- A column that matches a literal text. -/
  | like (path p : String) :
    ReadsAs (.like (.column path) (.literal (.string p)) false) ⟨.like, path, .scalar (.string p)⟩
  /-- A column that does not match a literal text. -/
  | notLike (path p : String) :
    ReadsAs (.like (.column path) (.literal (.string p)) true)
      ⟨.notLike, path, .scalar (.string p)⟩

/-- A refusal of a filter. -/
def QueryError.IsFilterRefusal (e : QueryError) : Prop := ∃ what, e = .unsupportedFilter what

/-! ### One conjunct -/

theorem comparesAs_iff {op : Sql.BinaryOp} {first second : Operator} :
    ComparesAs op first second ↔
      Operator.ofComparison? op = some first ∧ second = first.swapped := by
  constructor
  · intro h
    cases h with
    | eq | notEq | lt | le | gt | ge => exact ⟨rfl, rfl⟩
  · rintro ⟨hop, rfl⟩
    cases op with
    -- connectives compare nothing
    | and | or => exact absurd hop nofun
    | eq | notEq | lt | le | gt | ge =>
      obtain rfl := Option.some.inj hop
      constructor

/-- **A comparison is the condition that it reads as.** -/
theorem comparisonOf_eq_ok_iff {op : Sql.BinaryOp} {op' : Operator} {left right whole : Expression}
    {c : Condition} (hop : Operator.ofComparison? op = some op') :
    comparisonOf op' left right whole = .ok c ↔ (Expression.binary left op right).ReadsAs c := by
  have hcompares : ComparesAs op op' op'.swapped := comparesAs_iff.2 ⟨hop, rfl⟩
  constructor
  · intro h
    rcases comparisonOf_eq_ok h with ⟨path, v, rfl, rfl, rfl⟩ | ⟨path, v, rfl, rfl, rfl⟩
    · exact .columnFirst path v hcompares
    · exact .columnSecond path v hcompares
  · intro h
    cases h with
    | columnFirst path v h | columnSecond path v h =>
      obtain ⟨hop', rfl⟩ := comparesAs_iff.1 h
      -- the sign has one operator, so the rule and the call are about the same
      obtain rfl := Option.some.inj (hop'.symm.trans hop)
      rfl

/-- **A membership is the condition that it reads as.** -/
theorem membershipOf_eq_ok_iff {operand : Expression} {items : List Expression} {negated : Bool}
    {c : Condition} : membershipOf operand items negated = .ok c ↔
      (Expression.inList operand items negated).ReadsAs c := by
  -- a list of literals is taken apart into their values and nothing else
  have hvalues (values : List Json) :
      (values.map Expression.literal).mapM listValue = .ok values := by
    rw [mapM_eq_ok_iff, List.forall₂_map_left_iff]
    exact List.forall₂_same.2 fun _ _ => rfl
  constructor
  · intro h
    obtain ⟨path, values, rfl, rfl, rfl⟩ := membershipOf_eq_ok h
    cases negated with
    | false => exact .isIn path values
    | true => exact .notIn path values
  · intro h
    cases h with
    | isIn path values | notIn path values =>
      unfold membershipOf
      rw [hvalues]
      rfl

/-- **A pattern match is the condition that it reads as.** -/
theorem matchOf_eq_ok_iff {operand pattern : Expression} {negated : Bool} {c : Condition} :
    matchOf operand pattern negated = .ok c ↔
      (Expression.like operand pattern negated).ReadsAs c := by
  constructor
  · intro h
    obtain ⟨path, p, rfl, rfl, rfl⟩ := matchOf_eq_ok h
    cases negated with
    | false => exact .like path p
    | true => exact .notLike path p
  · intro h
    cases h with
    | like path p | notLike path p => rfl

/-- The only condition of a filter that is one conjunct. -/
theorem singleton_iff_readsAs {e : Expression} {read : Except QueryError Condition}
    {cs : Conditions} (he : e.conjuncts = [e]) (hread : ∀ c, read = .ok c ↔ e.ReadsAs c) :
    read.map (fun c => [c]) = .ok cs ↔ List.Forall₂ Expression.ReadsAs e.conjuncts cs := by
  rw [he, map_eq_ok_iff, List.forall₂_cons_left_iff]
  simp only [hread, List.forall₂_nil_left_iff]
  constructor
  · rintro ⟨c, hc, rfl⟩
    exact ⟨c, [], hc, rfl, rfl⟩
  · rintro ⟨c, _, hc, rfl, rfl⟩
    exact ⟨c, hc, rfl⟩

/-- A filter that is one conjunct without a rule has no conditions. -/
theorem not_forall₂_readsAs {e : Expression} {cs : Conditions} (he : e.conjuncts = [e])
    (hread : ∀ c, ¬ e.ReadsAs c) : ¬ List.Forall₂ Expression.ReadsAs e.conjuncts cs := by
  rw [he, List.forall₂_cons_left_iff]
  rintro ⟨c, _, hc, -⟩
  exact hread c hc

/-! ### Filters -/

/-- **The conditions of a filter are those of its conjuncts**, one for each. -/
theorem conditionsOf_eq_ok_iff {e : Expression} {cs : Conditions} :
    conditionsOf e = .ok cs ↔ List.Forall₂ Expression.ReadsAs e.conjuncts cs := by
  -- by the recursion of `conditionsOf`, which only a conjunction continues
  fun_induction conditionsOf e generalizing cs with
  -- a conjunction: the conditions of both sides, those of the left one first
  | case1 l r ihl ihr =>
    rw [Expression.conjuncts, forall₂_append_left_iff, bind_eq_ok_iff]
    simp only [bind_eq_ok_iff, ihl, ihr]
    constructor
    · rintro ⟨ds, hds, es, hes, h⟩
      exact ⟨ds, es, hds, hes, (Except.ok.inj h).symm⟩
    · rintro ⟨ds, es, hds, hes, rfl⟩
      exact ⟨ds, hds, es, hes, rfl⟩
  -- a disjunction is refused, and no rule is about it
  | case2 l r =>
    refine iff_of_false (fun h => not_isOk_error ⟨cs, h⟩) (not_forall₂_readsAs rfl fun c hc => ?_)
    cases hc with
    | columnFirst _ _ h | columnSecond _ _ h => cases h
  -- a comparison is one conjunct, and the rules for it are those of `comparisonOf`
  | case3 l op r hand hor op' hop =>
    refine singleton_iff_readsAs ?_ fun c => comparisonOf_eq_ok_iff hop
    cases op with
    | and => exact absurd rfl hand
    | or | eq | notEq | lt | le | gt | ge => rfl
  -- whatever is no connective compares, so there is no such case
  | case4 l op r hand hor hop =>
    cases op with
    | and => exact absurd rfl hand
    | or => exact absurd rfl hor
    | eq | notEq | lt | le | gt | ge => exact absurd hop (Option.some_ne_none _)
  | case5 e items negated => exact singleton_iff_readsAs rfl fun c => membershipOf_eq_ok_iff
  | case6 e pattern negated => exact singleton_iff_readsAs rfl fun c => matchOf_eq_ok_iff
  -- no form that a rule is about: a column by itself, for instance, or a call
  | case7 e hand hor hbinary hinList hlike =>
    refine iff_of_false (fun h => not_isOk_error ⟨cs, h⟩) (not_forall₂_readsAs ?_ fun c hc => ?_)
    · cases e with
      | binary l op r => exact absurd rfl (hbinary l op r)
      | column | literal | inList | like | not | call | raw => rfl
    · cases hc with
      | columnFirst | columnSecond => exact hbinary _ _ _ rfl
      | isIn | notIn => exact hinList _ _ _ rfl
      | like | notLike => exact hlike _ _ _ rfl

/-- A filter without conditions is refused. -/
theorem conditionsOf_failsOnly (e : Expression) :
    FailsOnly QueryError.IsFilterRefusal (conditionsOf e) := by
  have hrefusal {α : Type} (what : String) :
      FailsOnly QueryError.IsFilterRefusal (.error (.unsupportedFilter what) : Except _ α) :=
    failsOnly_error ⟨what, rfl⟩
  -- each refusal is one of the filter, and the rest only passes them on
  fun_induction conditionsOf e with
  | case1 l r ihl ihr => exact ihl.bind fun cs => ihr.bind fun ds => failsOnly_pure
  | case3 l op r hand hor op' hop =>
    refine FailsOnly.map ?_ _
    unfold comparisonOf
    split
    case h_1 | h_2 => exact failsOnly_ok
    all_goals exact hrefusal _
  | case5 e items negated =>
    refine FailsOnly.map ?_ _
    unfold membershipOf
    split
    case h_1 =>
      refine (failsOnly_mapM (fun item => ?_) items).map _
      unfold listValue
      split
      case h_1 => exact failsOnly_ok
      case h_2 => exact hrefusal _
    case h_2 => exact hrefusal _
  | case6 e pattern negated =>
    refine FailsOnly.map ?_ _
    unfold matchOf
    split
    case h_1 => exact failsOnly_ok
    all_goals exact hrefusal _
  | case2 | case4 | case7 => exact hrefusal _

/-- **A filter is taken apart exactly if each of its conjuncts reads as a condition.** The
conditions are then those of the conjuncts, one for each and from left to right. Any other filter is
refused as a filter, among them every filter with a disjunction or a negation for a conjunct. -/
theorem conditionsOf_iff_readsAs (e : Expression) :
    (∀ cs, conditionsOf e = .ok cs ↔ List.Forall₂ Expression.ReadsAs e.conjuncts cs) ∧
    ((∃ cs, conditionsOf e = .ok cs) ↔ ∀ leaf ∈ e.conjuncts, ∃ c, leaf.ReadsAs c) ∧
    ((∃ cs, conditionsOf e = .ok cs) ∨ ∃ what, conditionsOf e = .error (.unsupportedFilter what)) ∧
    (∀ leaf ∈ e.conjuncts, (∃ l r, leaf = .binary l .or r) ∨ (∃ operand, leaf = .not operand) →
      ∃ what, conditionsOf e = .error (.unsupportedFilter what)) := by
  -- that there are conditions for all conjuncts is that there is one for each
  have haccepted : (∃ cs, conditionsOf e = .ok cs) ↔ ∀ leaf ∈ e.conjuncts, ∃ c, leaf.ReadsAs c := by
    simp only [conditionsOf_eq_ok_iff, exists_forall₂_iff]
  have hcases : (∃ cs, conditionsOf e = .ok cs) ∨
      ∃ what, conditionsOf e = .error (.unsupportedFilter what) := by
    cases h : conditionsOf e with
    | ok cs => exact .inl ⟨cs, rfl⟩
    | error refusal =>
      obtain ⟨what, rfl⟩ := conditionsOf_failsOnly e refusal h
      exact .inr ⟨what, rfl⟩
  refine ⟨fun cs => conditionsOf_eq_ok_iff, haccepted, hcases, fun leaf hleaf hshape => ?_⟩
  refine hcases.resolve_left fun hok => ?_
  obtain ⟨c, hc⟩ := haccepted.1 hok leaf hleaf
  -- neither form is one that a rule is about
  rcases hshape with ⟨l, r, rfl⟩ | ⟨operand, rfl⟩
  · cases hc with
    | columnFirst _ _ h | columnSecond _ _ h => exact absurd h nofun
  · cases hc

/-! ### An instance -/

/-- Three conjuncts, the first with its literal in front, are three conditions. With a disjunction
for a fourth they are refused. -/
theorem conditionsOf_iff_readsAs_affordable :
    (∃ cs, conditionsOf affordable = .ok cs ∧
      List.Forall₂ Expression.ReadsAs affordable.conjuncts cs) ∧
    ∃ what, conditionsOf (.binary affordable .and
      (.binary (.binary (.column "title") .eq (.literal "atlas")) .or
        (.binary (.column "price") .eq (.literal (.ofNat 0))))) =
          .error (.unsupportedFilter what) := by
  -- the three rules are used, the first of them with the literal in front
  have hleaves : ∀ leaf ∈ affordable.conjuncts, ∃ c, leaf.ReadsAs c :=
    List.forall_mem_cons.2 ⟨⟨_, .columnSecond "price" (.ofNat 20) .gt⟩,
      List.forall_mem_cons.2 ⟨⟨_, .notIn "facts.language" ["la", "grc"]⟩,
        List.forall_mem_singleton.2 ⟨_, .notLike "title" "%handbook"⟩⟩⟩
  obtain ⟨cs, hcs⟩ := (conditionsOf_iff_readsAs affordable).2.1.2 hleaves
  refine ⟨⟨cs, hcs, ((conditionsOf_iff_readsAs affordable).1 cs).1 hcs⟩, ?_⟩
  exact (conditionsOf_iff_readsAs _).2.2.2 _ (List.mem_append_right _ (List.mem_singleton.2 rfl))
    (.inl ⟨_, _, rfl⟩)

end Pushdown
