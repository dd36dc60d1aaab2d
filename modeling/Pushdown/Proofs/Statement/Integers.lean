import Mathlib.Algebra.Group.Int.Defs
import Mathlib.Algebra.Group.Nat.Defs
import Pushdown.Proofs.Condition.Conjuncts
import Pushdown.Proofs.Number.Digits
import Pushdown.Proofs.Registry.Insertion
import Pushdown.Proofs.Statement.Qualifiers

/-!
# Integers in statements

An integer is written as its digits, after a minus if it is negative, and the minus is an operator
of its own. `ofInteger_isRead` says what such a literal is read as, in a comparison, in a list, in a
row of values and in an assignment: the integer, if it lies strictly between minus and plus two to
the sixty-third. No number of digits has a sign, so the integers that a minus is applied to have an
opposite within sixty-four bits.

That leaves out one integer of sixty-four bits with sign. The digits are read before the minus is
applied, and those of the least integer are one too many by themselves, so it is read as a number
with a fraction.
-/

namespace Pushdown

open Number

/-! ### Digits -/

/-- **Digits are read back.** -/
theorem readNat?_digitsOf (n : Nat) : readNat? (digitsOf n) = some n := by
  have hdigits : (digitsOf n).all Char.isDigit = true :=
    List.all_eq_true.2 fun _ => isDigit_of_mem_digitsOf
  rw [readNat?, if_pos ⟨digitsOf_ne_nil n, hdigits⟩, ofDigits_digitsOf]

/-- Digits without a sign are no negative number. -/
theorem readInt?_digitsOf (n : Nat) : readInt? (digitsOf n) = some (n : Int) := by
  -- the first character is a digit, and so it is no sign
  have hsign {c : Char} {cs : List Char} (hcs : digitsOf n = c :: cs) : c.isDigit = true :=
    isDigit_of_mem_digitsOf (hcs ▸ List.mem_cons_self)
  unfold readInt?
  split
  case h_1 cs hcs => exact absurd (hsign hcs) (by decide)
  case h_2 cs hcs => exact absurd (hsign hcs) (by decide)
  case h_3 =>
    rw [readNat?_digitsOf]
    rfl

/-- **The integer that digits are** has to be below two to the sixty-third. -/
theorem readInt64?_digitsOf_eq_some_iff {n : Nat} {i : Int} :
    readInt64? (digitsOf n) = some i ↔ i = n ∧ n < 2 ^ 63 := by
  rw [readInt64?, readInt?_digitsOf, Option.filter_eq_some_iff, Option.some_inj, fitsInt64,
    Bool.and_eq_true, decide_eq_true_iff, decide_eq_true_iff]
  omega

/-- No number with a fraction is an integer. -/
theorem Json.ofDouble_ne_ofInt (x : Double) (i : Int) : Json.ofDouble x ≠ .ofInt i := by
  unfold Json.ofDouble Json.ofInt
  split
  case isTrue => exact nofun
  case isFalse => exact nofun

/-- **Digits are an integer if they are one before the sign is applied.** -/
theorem numberLiteral_eq_ofInt_iff {n : Nat} {negated : Bool} {i : Int} :
    numberLiteral (String.ofList (digitsOf n)) negated = .ofInt i ↔
      n < 2 ^ 63 ∧ i = if negated then -(n : Int) else n := by
  unfold numberLiteral
  rw [String.toList_ofList]
  split
  case h_1 j hj =>
    -- the integer has its digits without the sign, so the sign is all that is left
    obtain ⟨rfl, hn⟩ := readInt64?_digitsOf_eq_some_iff.1 hj
    rw [and_iff_right hn, Json.ofInt, Json.ofInt, Json.number.injEq, JsonNumber.int.injEq, eq_comm]
  case h_2 hnone =>
    -- digits that are no integer are too many
    have hn : ¬ n < 2 ^ 63 := fun hn =>
      absurd (hnone.symm.trans (readInt64?_digitsOf_eq_some_iff.2 ⟨rfl, hn⟩)) nofun
    refine iff_of_false (fun h => ?_) fun h => hn h.1
    split at h
    case h_1 x hx => exact Json.ofDouble_ne_ofInt _ i h
    case h_2 => exact absurd h nofun

/-! ### Literals -/

/-- **An integer as written**: its digits, under a minus if it is negative. -/
def Sql.Expr.ofInteger (n : Int) : Sql.Expr :=
  if n < 0 then .minus (.number (String.ofList (digitsOf n.natAbs)) false)
  else .number (String.ofList (digitsOf n.natAbs)) false

/-- **An expression that is read as a value**, wherever a literal can stand. -/
structure Sql.Expr.IsRead (e : Sql.Expr) (v : Json) : Prop where
  /-- It is that literal. -/
  literal : ∀ scope, Expression.ofSql scope e = .literal v
  /-- A comparison with a column, on either side, is a condition on the value. -/
  compared : ∀ (scope : Scope) (parts : List Sql.Name) {op : Sql.BinaryOp}
    {first second : Operator}, ComparesAs op first second →
    conditionsOf (.ofSql scope (.binary (.column parts) op e)) =
      .ok [⟨first, scope.columnPath parts, .scalar v⟩] ∧
    conditionsOf (.ofSql scope (.binary e op (.column parts))) =
      .ok [⟨second, scope.columnPath parts, .scalar v⟩]
  /-- A list of literals holds the value in its place. -/
  listed : ∀ (scope : Scope) (parts : List Sql.Name) (before after : List Sql.Expr)
    (valuesBefore valuesAfter : List Json) (negated : Bool),
    Expression.ofSqls scope before = valuesBefore.map .literal →
    Expression.ofSqls scope after = valuesAfter.map .literal →
    conditionsOf (.ofSql scope (.inList (.column parts) (before ++ e :: after) negated)) =
      .ok [⟨if negated then .notIn else .isIn, scope.columnPath parts,
        .list (valuesBefore ++ v :: valuesAfter)⟩]
  /-- A record to insert has the value under the column of its place. -/
  inserted : ∀ (scope : Scope) (columns : List String) (before after : List Sql.Expr)
    (valuesBefore valuesAfter : List Json),
    Expression.ofSqls scope before = valuesBefore.map .literal →
    Expression.ofSqls scope after = valuesAfter.map .literal → columns.Nodup →
    (valuesBefore ++ v :: valuesAfter).length = columns.length →
    insertRecord columns (Expression.ofSqls scope (before ++ e :: after)) =
      .ok (columns.zip (valuesBefore ++ v :: valuesAfter))
  /-- An assignment gives its column the value. -/
  assigned : ∀ (schema : Schema) (scope : Scope) (parts : List Sql.Name),
    schema.isOutput (scope.columnPath parts) = true →
    assignmentOf scope (.column parts, e) >>= assignmentEntry schema =
      .ok (scope.columnPath parts, v)

theorem Expression.ofSqls_append (scope : Scope) (es es' : List Sql.Expr) :
    ofSqls scope (es ++ es') = ofSqls scope es ++ ofSqls scope es' := by
  induction es with
  | nil => rfl
  | cons e es ih => exact congrArg (Expression.ofSql scope e :: ·) ih

/-- **A literal is read as its value** in all places. -/
theorem Sql.Expr.isRead_iff {e : Sql.Expr} {v : Json} :
    e.IsRead v ↔ ∀ scope, Expression.ofSql scope e = .literal v := by
  refine ⟨fun h => h.literal, fun hliteral => ?_⟩
  -- a list of literals with the expression among them is read as one of literals
  have hrow {scope : Scope} {before after : List Sql.Expr} {valuesBefore valuesAfter : List Json}
      (hbefore : Expression.ofSqls scope before = valuesBefore.map .literal)
      (hafter : Expression.ofSqls scope after = valuesAfter.map .literal) :
      Expression.ofSqls scope (before ++ e :: after) =
        (valuesBefore ++ v :: valuesAfter).map .literal := by
    rw [Expression.ofSqls_append, Expression.ofSqls, hbefore, hafter, hliteral, List.map_append,
      List.map_cons]
  -- a leaf has one conjunct, so it is one condition
  have hsingle {leaf : Expression} {c : Condition} (hleaf : leaf.conjuncts = [leaf])
      (hc : leaf.ReadsAs c) : conditionsOf leaf = .ok [c] :=
    conditionsOf_eq_ok_iff.2 (hleaf ▸ .cons hc .nil)
  constructor
  case literal => exact hliteral
  case compared =>
    intro scope parts op first second hop
    rw [Expression.ofSql, Expression.ofSql, Expression.ofSql, hliteral]
    have hconjunct (l r : Expression) :
        (Expression.binary l op r).conjuncts = [.binary l op r] := by
      -- a comparison is no conjunction
      cases hop <;> rfl
    exact ⟨hsingle (hconjunct _ _) (.columnFirst _ v hop),
      hsingle (hconjunct _ _) (.columnSecond _ v hop)⟩
  case listed =>
    intro scope parts before after valuesBefore valuesAfter negated hbefore hafter
    rw [Expression.ofSql, Expression.ofSql, hrow hbefore hafter]
    refine hsingle rfl ?_
    cases negated with
    | false => exact .isIn _ _
    | true => exact .notIn _ _
  case inserted =>
    intro scope columns before after valuesBefore valuesAfter hbefore hafter hcolumns hlen
    rw [hrow hbefore hafter]
    -- the columns are distinct, so making up the record drops none of the values
    have hkeys := keys_zip hlen
    refine (insertRecord_eq_ok_iff (by rw [List.length_map, hlen])).2 ⟨_, rfl, ?_⟩
    exact (Record.ofList_of_nodup (hkeys.symm ▸ hcolumns)).symm
  case assigned =>
    intro schema scope parts hcolumn
    rw [assignmentOf, hliteral]
    change (requireWritable schema .update _ >>= fun _ => entryFor _) = _
    rw [requireWritable_eq_ok_iff.2 hcolumn]
    rfl

/-- The literal of an integer is the value of its digits. -/
theorem Sql.Expr.ofSql_ofInteger (scope : Scope) (n : Int) :
    Expression.ofSql scope (ofInteger n) =
      .literal (numberLiteral (String.ofList (digitsOf n.natAbs)) (decide (n < 0))) := by
  unfold ofInteger
  -- the minus is applied to what the digits are
  by_cases hn : n < 0
  · rw [if_pos hn, decide_eq_true hn, Expression.ofSql]
  · rw [if_neg hn, decide_eq_false hn, Expression.ofSql]

/-- The digits of the least integer of sixty-four bits are one too many without their minus. -/
theorem numberLiteral_least : numberLiteral (String.ofList (digitsOf (2 ^ 63))) true =
    .number (.float (.ofInt (-2 ^ 63))) := by
  unfold numberLiteral
  rw [String.toList_ofList]
  decide +kernel

/-- **An integer is read as itself exactly if it lies strictly between minus and plus two to the
sixty-third.** The least integer of sixty-four bits is read as the number with a fraction that it
is equal to. The integer to which a minus is applied never lacks an opposite. -/
theorem Sql.Expr.ofInteger_isRead (n : Int) :
    ((ofInteger n).IsRead (.ofInt n) ↔ -2 ^ 63 < n ∧ n < 2 ^ 63) ∧
    (n = -2 ^ 63 → (ofInteger n).IsRead (.number (.float (.ofInt n)))) ∧
    ∀ i, readInt64? (digitsOf n.natAbs) = some i → fitsInt64 (-i) = true := by
  refine ⟨?_, ?_, fun i hi => ?_⟩
  · simp only [isRead_iff, ofSql_ofInteger, Expression.literal.injEq, forall_const,
      numberLiteral_eq_ofInt_iff, decide_eq_true_iff]
    -- the digits of a negative integer are those of its opposite
    split
    case isTrue hn => omega
    case isFalse hn => omega
  · rintro rfl
    exact isRead_iff.2 fun scope => (ofSql_ofInteger scope _).trans
      (congrArg Expression.literal numberLiteral_least)
  · obtain ⟨rfl, hn⟩ := readInt64?_digitsOf_eq_some_iff.1 hi
    -- what the minus is applied to was below two to the sixty-third
    rw [fitsInt64, Bool.and_eq_true, decide_eq_true_iff, decide_eq_true_iff]
    omega

/-! ### Instances -/

/-- The integers next to the bounds are read as themselves, and the lower bound is not. -/
theorem Sql.Expr.ofInteger_isRead_bounds :
    (ofInteger (2 ^ 63 - 1)).IsRead (.ofInt (2 ^ 63 - 1)) ∧
    (ofInteger (-2 ^ 63 + 1)).IsRead (.ofInt (-2 ^ 63 + 1)) ∧
    fitsInt64 (-(2 ^ 63 - 1)) = true ∧
    (ofInteger (-2 ^ 63)).IsRead (.number (.float (.ofInt (-2 ^ 63)))) :=
  ⟨(ofInteger_isRead _).1.2 (by decide), (ofInteger_isRead _).1.2 (by decide),
    (ofInteger_isRead (-2 ^ 63 + 1)).2.2 _
      (readInt64?_digitsOf_eq_some_iff.2 ⟨by decide, by decide⟩),
    (ofInteger_isRead _).2.1 rfl⟩

/-- Rows with the least integer of sixty-four bits. -/
def leastRows : Sql.Query :=
  .plain [.expr (.column [.bare "a"]) none] "t" <|
    some (.binary (.column [.bare "a"]) .eq (.minus (.number "9223372036854775808" false)))

/-- **Rows with the least integer are asked for by a number with a fraction.** -/
theorem Spec.read_leastRows :
    Spec.read "SELECT a FROM t WHERE a = -9223372036854775808" =
      .ok ⟨some "t", .columns [.plain "a"],
        [⟨.eq, "a", .scalar (.number (.float (.ofInt (-9223372036854775808))))⟩], [], none, none⟩ ∧
    ¬ (Sql.Expr.ofInteger (-9223372036854775808)).IsRead (.ofInt (-9223372036854775808)) := by
  have htokens : Sql.tokens "SELECT a FROM t WHERE a = -9223372036854775808".toList =
      .ok [.word (.bare "SELECT") "SELECT", .word (.bare "a") "A", .word (.bare "FROM") "FROM",
        .word (.bare "t") "T", .word (.bare "WHERE") "WHERE", .word (.bare "a") "A", .symbol "=",
        .symbol "-", .number "9223372036854775808" false] :=
    eq_ok_of_toOption (by decide +kernel)
  have hread : Sql.Statement.readAll "SELECT a FROM t WHERE a = -9223372036854775808" =
      .ok [.query leastRows] :=
    Sql.Statement.readAll_of_tokens htokens (by with_unfolding_all rfl)
  -- the digits of the text are those of two to the sixty-third
  have hdigits : "9223372036854775808" = String.ofList (digitsOf (2 ^ 63)) := by decide +kernel
  have hselect : SelectStatement.ofSql leastRows = .ok ⟨[.expr (.column "a") none],
      some ⟨"t", none⟩, some (.binary (.column "a") .eq
        (.literal (.number (.float (.ofInt (-2 ^ 63)))))), [], none, none⟩ := by
    rw [← numberLiteral_least, ← hdigits]
    rfl
  refine ⟨?_, fun h => ?_⟩
  · rw [Spec.read_of_readAll hread, hselect]
    rfl
  · -- a literal is read as one value, and this one has a fraction
    have hliteral := (Sql.Expr.ofSql_ofInteger [] (-2 ^ 63)).symm.trans (h.literal [])
    exact absurd (numberLiteral_least.symm.trans (Expression.literal.inj hliteral)) nofun

end Pushdown
