import Pushdown.Proofs.Outcome
import Pushdown.Spec

/-!
# What the words of an expression are for

An expression holds the texts of the constructs that the engine does not understand. They are there
for the messages that reject them. The **outline** of an expression leaves them out, and the main
statement is `Spec.ofSelect_outline`: a selection and its outline come to the same spec, or to
failures of the same kind.

So whoever changes a selection in a way that shows in such texts alone has not changed what it asks
for. The three places where expressions are looked at, conditions, projection and order, have one
lemma each. The lemma about conditions follows `conditionsOf`, which goes down into conjunctions
alone.
-/

namespace Pushdown

/-! ### Specification -/

/-- **The kinds of failures** of a statement. -/
inductive QueryError.Kind where
  | parse
  | unsupportedStatement
  | unsupportedFilter
  | unsupportedOperator
  | unknownColumn
  | windowOutOfRange
  | remoteFetch
  | schemaMismatch
  | invalid
  | connection

/-- The kind of a failure, without its words. -/
def QueryError.kind : QueryError → QueryError.Kind
  | .parse _ => .parse
  | .unsupportedStatement _ => .unsupportedStatement
  | .unsupportedFilter _ => .unsupportedFilter
  | .unsupportedOperator _ _ _ => .unsupportedOperator
  | .unknownColumn _ _ => .unknownColumn
  | .windowOutOfRange _ _ _ => .windowOutOfRange
  | .remoteFetch _ _ _ => .remoteFetch
  | .schemaMismatch _ _ _ => .schemaMismatch
  | .invalid _ => .invalid
  | .connection _ => .connection

mutual
/-- **The outline of an expression**: all of it but the texts of constructs that are not
understood. -/
def Expression.outline : Expression → Expression
  | .column path => .column path
  | .literal value => .literal value
  | .binary l op r => .binary l.outline op r.outline
  | .inList e items negated => .inList e.outline (Expression.outlines items) negated
  | .like e pattern negated => .like e.outline pattern.outline negated
  | .not e => .not e.outline
  | .call name args => .call name (Expression.outlines args)
  | .raw _ => .raw ""
/-- The outlines of expressions. -/
def Expression.outlines : List Expression → List Expression
  | [] => []
  | e :: es => e.outline :: Expression.outlines es
end

theorem Expression.outlines_eq_map (es : List Expression) :
    Expression.outlines es = es.map Expression.outline := by
  induction es with
  | nil => rfl
  | cons e es ih => rw [Expression.outlines, ih, List.map_cons]

def SelectTarget.outline : SelectTarget → SelectTarget
  | .wildcard => .wildcard
  | .expr e name => .expr e.outline name

def SortItem.outline (item : SortItem) : SortItem := { item with expr := item.expr.outline }

/-- **The outline of a selection.** -/
def SelectStatement.outline (s : SelectStatement) : SelectStatement :=
  { s with
    targets := s.targets.map SelectTarget.outline
    selection := s.selection.map Expression.outline
    orderBy := s.orderBy.map SortItem.outline }

/-! ### Conditions -/

theorem Expression.literal?_outline (e : Expression) : e.outline.literal? = e.literal? := by
  cases e <;> rfl

theorem literals?_outlines (es : List Expression) :
    literals? (Expression.outlines es) = literals? es := by
  -- a literal among the outlines is the literal itself
  induction es with
  | nil => rfl
  | cons e es ih =>
    unfold literals? at ih ⊢
    rw [Expression.outlines, List.mapM_cons, List.mapM_cons, ih, Expression.literal?_outline]

theorem comparisonOf_outline (op : Operator) (left right whole whole' : Expression) :
    (comparisonOf op left.outline right.outline whole').mapError QueryError.kind =
      (comparisonOf op left right whole).mapError QueryError.kind := by
  -- a column and a literal compare, whichever comes first, and are their own outlines; all other
  -- pairs are refused, and only the words of that show the operands
  cases left <;> cases right <;> rfl

theorem listValue_outline (e : Expression) :
    (listValue e.outline).mapError QueryError.kind = (listValue e).mapError QueryError.kind := by
  cases e <;> rfl

theorem membershipOf_outline (operand : Expression) (items : List Expression) (negated : Bool) :
    (membershipOf operand.outline (Expression.outlines items) negated).mapError QueryError.kind =
      (membershipOf operand items negated).mapError QueryError.kind := by
  -- the items are looked at only under a column, one by one
  cases operand with
  | column path =>
    refine mapError_map_congr (mapError_mapM_congr ?_) _
    rw [Expression.outlines_eq_map, List.forall₂_map_left_iff, List.forall₂_same]
    exact fun e _ => listValue_outline e
  | literal | binary | inList | like | not | call | raw => rfl

theorem matchOf_outline (operand pattern : Expression) (negated : Bool) :
    (matchOf operand.outline pattern.outline negated).mapError QueryError.kind =
      (matchOf operand pattern negated).mapError QueryError.kind := by
  cases operand <;> cases pattern <;> rfl

/-- **Conditions are taken from an outline as from the whole.** -/
theorem conditionsOf_outline (e : Expression) :
    (conditionsOf e.outline).mapError QueryError.kind =
      (conditionsOf e).mapError QueryError.kind := by
  -- down into conjunctions, and no further
  cases e with
  | binary l op r =>
    cases op with
    | and =>
      exact mapError_bind_congr (conditionsOf_outline l) fun cs =>
        mapError_bind_congr (conditionsOf_outline r) fun ds => rfl
    | or => rfl
    -- every other operator compares
    | eq | notEq | lt | le | gt | ge => exact mapError_map_congr (comparisonOf_outline _ l r _ _) _
  | inList e items negated => exact mapError_map_congr (membershipOf_outline e items negated) _
  | like e pattern negated => exact mapError_map_congr (matchOf_outline e pattern negated) _
  | column | literal | not | call | raw => rfl

/-! ### Selections -/

/-- **The columns asked for are those of the outlines.** -/
theorem targetColumns_outline (found : List ProjectedColumn) (targets : List SelectTarget) :
    (targetColumns found (targets.map SelectTarget.outline)).mapError QueryError.kind =
      (targetColumns found targets).mapError QueryError.kind := by
  induction targets generalizing found with
  | nil => rfl
  | cons target targets ih =>
    -- a column is its own outline, and everything else is refused
    cases target with
    | wildcard => exact ih found
    | expr e name =>
      cases e with
      | column path => exact ih _
      | literal | binary | inList | like | not | call | raw => rfl

theorem ofTargets_outline (targets : List SelectTarget) :
    (Projection.ofTargets (targets.map SelectTarget.outline)).mapError QueryError.kind =
      (Projection.ofTargets targets).mapError QueryError.kind := by
  have hwildcard : (targets.map SelectTarget.outline).any SelectTarget.isWildcard =
      targets.any SelectTarget.isWildcard := by
    -- an outline keeps what a target is
    rw [List.any_map]
    refine congrArg (targets.any ·) (funext fun target => ?_)
    cases target <;> rfl
  refine mapError_bind_congr (targetColumns_outline [] targets) fun columns => ?_
  rw [hwildcard]

theorem ofSortItem_outline (item : SortItem) :
    (OrderKey.ofSortItem item.outline).mapError QueryError.kind =
      (OrderKey.ofSortItem item).mapError QueryError.kind := by
  obtain ⟨e, ascending⟩ := item
  cases e <;> rfl

/-- **A selection and its outline come to the same**, but for the words of a failure. -/
theorem Spec.ofSelect_outline (s : SelectStatement) :
    (Spec.ofSelect s.outline).mapError QueryError.kind =
      (Spec.ofSelect s).mapError QueryError.kind := by
  have hconditions : (conditionsOf? (s.selection.map Expression.outline)).mapError QueryError.kind =
      (conditionsOf? s.selection).mapError QueryError.kind := by
    -- a filter that is not there asks for nothing
    cases s.selection with
    | none => rfl
    | some e => exact conditionsOf_outline e
  have horder : ((s.orderBy.map SortItem.outline).mapM OrderKey.ofSortItem).mapError
      QueryError.kind = (s.orderBy.mapM OrderKey.ofSortItem).mapError QueryError.kind := by
    refine mapError_mapM_congr ?_
    rw [List.forall₂_map_left_iff, List.forall₂_same]
    exact fun item _ => ofSortItem_outline item
  -- conditions, projection and order are looked at one after another, and the first failure counts
  refine mapError_bind_congr hconditions fun conditions => ?_
  refine mapError_bind_congr (ofTargets_outline s.targets) fun projection => ?_
  exact mapError_bind_congr horder fun orderBy => rfl

end Pushdown
