import Pushdown.Proofs.Rows.Filter

/-!
# What a filter says of a row

A filter is an expression, and of a row it is true, false or **unknown**: a comparison with a null,
or of values that the type of the column cannot compare, is neither true nor false. `truthOf` is
this meaning, given on the expression as it is written and without any reference to conditions. A
row passes a filter if the filter is true of it.

* A comparison compares its operands in the order in which they are written, under the declared type
  of the column among them.
* Membership is the disjunction of the equalities with the items, and a pattern match is the test of
  the pattern; both are unknown of a null.
* Conjunction, disjunction and negation are those of three values: of two conjuncts the less true
  one decides, of two disjuncts the truer one, and the negation of what is unknown is unknown.

A missing cell is a null. Constructs that a filter cannot consist of, a function call for instance,
are unknown of every row.
-/

namespace Pushdown

/-! ### Truth values -/

/-- **What a filter is of a row.** -/
inductive Truth where
  /-- It is false. -/
  | no
  /-- It is neither false nor true. -/
  | unknown
  /-- It is true. -/
  | yes
  deriving DecidableEq, Repr

namespace Truth

/-- A truth value that is known. -/
def ofBool (b : Bool) : Truth := if b then yes else no

/-- Negation. -/
def not : Truth → Truth
  | no => yes
  | unknown => unknown
  | yes => no

/-- Conjunction: the less true of two. -/
def and : Truth → Truth → Truth
  | yes, t => t
  | no, _ => no
  | unknown, no => no
  | unknown, _ => unknown

/-- Disjunction: the truer of two. -/
def or : Truth → Truth → Truth
  | no, t => t
  | yes, _ => yes
  | unknown, yes => yes
  | unknown, _ => unknown

/-- The disjunction of a list. -/
def any (ts : List Truth) : Truth := ts.foldr or no

/-- The negation, if it is asked for. -/
def negatedIf (negated : Bool) (t : Truth) : Truth := if negated then t.not else t

@[simp] theorem negatedIf_unknown (negated : Bool) : unknown.negatedIf negated = unknown := by
  cases negated <;> rfl

theorem ofBool_eq_yes_iff {b : Bool} : ofBool b = yes ↔ b = true := by
  cases b <;> decide

theorem not_ofBool_eq_yes_iff {b : Bool} : (ofBool b).not = yes ↔ b = false := by
  cases b <;> decide

theorem not_or (a b : Truth) : (a.or b).not = a.not.and b.not := by
  cases a <;> cases b <;> rfl

theorem and_eq_yes_iff {a b : Truth} : a.and b = yes ↔ a = yes ∧ b = yes := by
  cases a <;> cases b <;> decide

theorem or_eq_yes_iff {a b : Truth} : a.or b = yes ↔ a = yes ∨ b = yes := by
  cases a <;> cases b <;> decide

/-- A disjunction is true if a part of it is. -/
theorem any_eq_yes_iff {ts : List Truth} : any ts = yes ↔ yes ∈ ts := by
  induction ts with
  | nil => simp [any]
  | cons t ts ih =>
    change t.or (any ts) = yes ↔ _
    -- one true part is enough, wherever it stands
    rw [or_eq_yes_iff, ih, List.mem_cons, eq_comm]

/-- The negation of a disjunction is true if those of all its parts are. -/
theorem not_any_eq_yes_iff {ts : List Truth} : (any ts).not = yes ↔ ∀ t ∈ ts, t.not = yes := by
  induction ts with
  | nil => simp [any, not]
  | cons t ts ih =>
    change (t.or (any ts)).not = yes ↔ _
    -- the negation goes inside, where every part has to be false
    rw [not_or, and_eq_yes_iff, ih, List.forall_mem_cons]

end Truth

/-! ### Meaning -/

/-- An order of two values is one that a comparison asks for. Connectives compare nothing. -/
def Sql.BinaryOp.admits : Sql.BinaryOp → Ordering → Bool
  | .eq, o => o == .eq
  | .notEq, o => o != .eq
  | .lt, o => o == .lt
  | .le, o => o != .gt
  | .gt, o => o == .gt
  | .ge, o => o != .lt
  | .and, _ => false
  | .or, _ => false

/-- The truth of a comparison of two values that stand in an order, if they are comparable. -/
def Truth.ofOrder (op : Sql.BinaryOp) : Option Ordering → Truth
  | some o => ofBool (op.admits o)
  | none => unknown

theorem Truth.ofOrder_eq_yes_iff {op : Sql.BinaryOp} {o : Option Ordering} :
    ofOrder op o = yes ↔ o.any op.admits = true := by
  cases o with
  -- what cannot be compared is unknown, and so is not true
  | none => simp [ofOrder]
  | some o => exact ofBool_eq_yes_iff

theorem Truth.not_ofOrder_eq_yes_iff {op : Sql.BinaryOp} {o : Option Ordering} :
    (ofOrder op o).not = yes ↔ (o.any fun o => !op.admits o) = true := by
  cases o with
  -- unknown stays unknown when it is negated
  | none => simp [ofOrder, not]
  | some o => simp [ofOrder, not_ofBool_eq_yes_iff]

/-- The value of an operand in a row: a cell, null if there is none, or a literal. -/
def Expression.value? (row : Record) : Expression → Option Json
  | .column path => some (cellAt row path)
  | .literal value => some value
  | _ => none

/-- The type under which two operands compare: that of the column among them. A column that is not
declared holds documents, and so do two literals. -/
def comparisonType (schema : Schema) : Expression → Expression → ColumnType
  | .column path, _ => (schema.resolve path).getD .json
  | _, .column path => (schema.resolve path).getD .json
  | _, _ => .json

/-- **The truth of a comparison**, its operands in the order in which they are written. -/
def comparisonTruth (schema : Schema) (row : Record) (op : Sql.BinaryOp) (left right : Expression) :
    Truth :=
  match left.value? row, right.value? row with
  | some a, some b => .ofOrder op (compareCells? (comparisonType schema left right) a b)
  | _, _ => .unknown

/-- **The truth of a membership**: that one of the equalities holds. -/
def membershipTruth (schema : Schema) (row : Record) (operand : Expression)
    (items : List Expression) : Truth :=
  match operand.value? row with
  | some v =>
    if v.isNull then .unknown else .any (items.map (comparisonTruth schema row .eq operand))
  | none => .unknown

/-- **The truth of a pattern match.** -/
def matchTruth (row : Record) (operand pattern : Expression) : Truth :=
  match operand.value? row, pattern.value? row with
  | some v, some (.string p) => if v.isNull then .unknown else .ofBool (Wildcard.test p v.bareText)
  | _, _ => .unknown

/-- **What a filter is of a row.** -/
def truthOf (schema : Schema) (row : Record) : Expression → Truth
  | .binary l .and r => (truthOf schema row l).and (truthOf schema row r)
  | .binary l .or r => (truthOf schema row l).or (truthOf schema row r)
  | .binary l op r => comparisonTruth schema row op l r
  | .inList e items negated => (membershipTruth schema row e items).negatedIf negated
  | .like e pattern negated => (matchTruth row e pattern).negatedIf negated
  | .not e => (truthOf schema row e).not
  | _ => .unknown

end Pushdown
