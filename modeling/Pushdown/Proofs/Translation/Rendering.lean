import Pushdown.Proofs.Outcome
import Pushdown.Translation

/-!
# What a boolean expression says

A condition can be expressed if it is on a place inside the documents and none of its values is a
null or an object. What it is then expressed by depends on nothing but the condition:
`ExpressionDialect.conditionText`. The lemmas here say this for the steps of the rendering, each as
an equivalence, so that whoever has an expression also knows that its condition was fit for one.

A null or an object inside a value, as an item of an array, is no obstacle: the array is written out
whole.
-/

namespace Pushdown

/-- **A value that an expression can hold.** -/
def Json.IsConstant (v : Json) : Prop := v ≠ .null ∧ ∀ entries, v ≠ .object entries

/-- The part of a column's path below a name is what follows the name and a point. -/
theorem Condition.fieldUnder_eq_some_iff {c : Condition} {name field : String} :
    c.fieldUnder name = some field ↔ c.column = name ++ "." ++ field := by
  -- the path is compared by its characters, as its beginning is cut off there
  have hlist : c.column = name ++ "." ++ field ↔
      c.column.toList = name.toList ++ '.' :: field.toList := by
    rw [← String.toList_inj, String.toList_append, String.toList_append, List.append_assoc]
    rfl
  unfold Condition.fieldUnder
  rw [hlist, ← Text.dropLeading_eq_some_iff]
  split
  case h_1 rest hrest =>
    rw [hrest, Option.some.injEq, Option.some.injEq, List.cons.injEq]
    constructor
    · rintro rfl
      exact ⟨rfl, (String.toList_ofList).symm⟩
    · rintro ⟨-, rfl⟩
      exact String.ofList_toList
  case h_2 hnot =>
    constructor
    · nofun
    · exact fun h => absurd h (hnot _)

namespace ExpressionDialect

variable {d : ExpressionDialect} {c : Condition} {column : String}

/-! ### Specification -/

/-- The text of an operand in an expression. -/
def operandText : Operand → String
  | .scalar v => v.text
  | .list vs => "[" ++ ", ".intercalate (vs.map Json.text) ++ "]"

/-- **The text of a condition in an expression**: place, operator and operand, in parentheses. -/
def conditionText (d : ExpressionDialect) (c : Condition) : String :=
  "(" ++ placeText ((c.fieldUnder d.documents).getD c.column) ++ " " ++ sign c.op ++ " " ++
    operandText c.operand ++ ")"

/-! ### Steps -/

theorem literal_eq_ok_iff {v : Json} {text : String} :
    d.literal column v = .ok text ↔ v.IsConstant ∧ text = v.text := by
  unfold Json.IsConstant
  cases v <;> simp [literal, eq_comm]

theorem operand_eq_ok_iff {o : Operand} {text : String} :
    d.operand column o = .ok text ↔ (∀ v ∈ o.values, v.IsConstant) ∧ text = operandText o := by
  cases o with
  -- a single value is checked as a list of one
  | scalar v =>
    change d.literal column v = .ok text ↔ (∀ w ∈ [v], w.IsConstant) ∧ text = v.text
    rw [List.forall_mem_singleton]
    exact literal_eq_ok_iff
  | list vs =>
    -- the first value that cannot be held would fail the whole list
    unfold operand
    simp only [bind_eq_ok_iff, mapM_eq_ok_iff, forall₂_eq_ok_iff fun _ _ _ => literal_eq_ok_iff]
    constructor
    · rintro ⟨_, ⟨hvs, rfl⟩, htext⟩
      exact ⟨hvs, (Except.ok.inj htext).symm⟩
    · rintro ⟨hvs, rfl⟩
      exact ⟨_, ⟨hvs, rfl⟩, rfl⟩

/-- **A condition is rendered exactly when an expression can hold its values**, and by its text. -/
theorem render_eq_ok_iff {text : String} :
    d.render c = .ok text ↔
      (∀ v ∈ c.operand.values, v.IsConstant) ∧ text = d.conditionText c := by
  unfold render
  simp only [bind_eq_ok_iff, operand_eq_ok_iff]
  constructor
  · rintro ⟨_, ⟨hvs, rfl⟩, htext⟩
    exact ⟨hvs, (Except.ok.inj htext).symm⟩
  · rintro ⟨hvs, rfl⟩
    exact ⟨_, ⟨hvs, rfl⟩, rfl⟩

/-- A condition is for the store if it is on a place below the documents. -/
theorem isPushable_iff : d.isPushable c = true ↔
    ∃ field, field ≠ "" ∧ c.column = d.documents ++ "." ++ field := by
  unfold isPushable
  simp only [Option.any_eq_true, Condition.fieldUnder_eq_some_iff, Bool.not_eq_true',
    String.isEmpty_eq_false_iff, and_comm]

end ExpressionDialect

end Pushdown
