import Pushdown.Proofs.Order.Sameness
import Pushdown.Proofs.Outcome
import Pushdown.Rows.Filter

/-!
# Conditions on rows

A condition is compiled before it is tested, and whether it compiles is a matter of the schema
alone. So a condition that compiles has a meaning on rows, `Condition.holds`, that mentions no
compiled form, and the compiled conditions of a list test a row as the conditions hold of it
(`meetsAll_eq_holdAll`).

What compiling keeps of a condition is in `CompiledCondition.of_compile`: the condition, the
declared type of its column, and the pattern if it matches one. The test then depends on the cell of
the column alone, a missing one being null, and null meets no condition (`test_eq_testCell`). The
cells of a row are as well formed as the row, however deep they stand (`wellFormed_cellAt`), and a
key that is the whole path wins over any place inside (`lookup_of_get?`). Rows with the same cells
under the whole path and under its first step have the same cell there (`lookup_congr`).
-/

namespace Pushdown

variable {schema : Schema} {c : Condition} {compiled : CompiledCondition}

/-! ### What conditions mean -/

/-- **A row meets a condition** that compiles against the schema. -/
def Condition.holds (schema : Schema) (c : Condition) (row : Record) : Bool :=
  match CompiledCondition.compile schema c with
  | .ok compiled => compiled.test row
  | .error _ => false

/-- A row meets all conditions. -/
def Conditions.holdAll (schema : Schema) (cs : Conditions) (row : Record) : Bool :=
  cs.all (·.holds schema row)

/-- Compiled conditions test a row as the conditions do. -/
theorem meetsAll_eq_holdAll {cs : Conditions} {compiled : List CompiledCondition}
    (h : compileAll schema cs = .ok compiled) (row : Record) :
    meetsAll compiled row = cs.holdAll schema row := by
  have hall := mapM_eq_ok_iff.1 h
  unfold meetsAll Conditions.holdAll
  clear h
  induction hall with
  | nil => rfl
  | cons hc _ ih =>
    -- one condition of each list, and the compiled one is that of the other
    rw [List.all_cons, List.all_cons, ih]
    unfold Condition.holds
    rw [hc]

/-- Conditions compile together exactly when each of them does. -/
theorem exists_compileAll {cs : Conditions}
    (h : ∀ c ∈ cs, ∃ compiled, CompiledCondition.compile schema c = .ok compiled) :
    ∃ compiled, compileAll schema cs = .ok compiled := by
  obtain ⟨compiled, hcompiled⟩ := exists_forall₂_iff.2 h
  exact ⟨compiled, mapM_eq_ok_iff.2 hcompiled⟩

/-! ### Cells -/

/-- The cell of a row that a condition on a path looks at; a missing one is null. -/
def cellAt (row : Record) (path : String) : Json := (lookup row path).getD .null

/-- Splitting is undone by joining. -/
theorem Text.intercalate_splitOn (separator : Char) (cs : List Char) :
    [separator].intercalate (splitOn separator cs) = cs := by
  induction cs with
  | nil => rfl
  | cons c cs ih =>
    rw [splitOn]
    cases hsplit : splitOn separator cs with
    | nil => exact absurd hsplit splitOn_ne_nil
    | cons piece more =>
      rw [hsplit] at ih
      -- a separator opens a new piece, and anything else joins the one behind it
      split
      case isTrue hc =>
        rw [List.intercalate_cons_cons, ih, hc]
        rfl
      case isFalse =>
        cases more with
        | nil =>
          rw [List.intercalate_singleton] at ih ⊢
          rw [ih]
        | cons next more =>
          rw [List.intercalate_cons_cons] at ih ⊢
          rw [← ih]
          rfl

theorem Text.splitOn_eq (separator : Char) (cs : List Char) :
    splitOn separator cs = match splitFirst separator cs with
      | some (before, after) => before :: splitOn separator after
      | none => [cs] := by
  induction cs with
  | nil => rfl
  | cons c cs ih =>
    rw [splitOn, splitFirst]
    -- up to the first separator both have kept what they have read
    by_cases hc : c = separator
    · rw [if_pos hc, if_pos hc]
    · rw [if_neg hc, if_neg hc, ih]
      cases splitFirst separator cs with
      | none => rfl
      | some parts => rfl

section

variable {separator : Char} {piece : List Char}

theorem Text.splitOn_append (h : separator ∉ piece) (rest : List Char) :
    splitOn separator (piece ++ separator :: rest) = piece :: splitOn separator rest := by
  induction piece with
  | nil => rw [List.nil_append, splitOn, if_pos rfl]
  | cons c piece ih =>
    rw [List.mem_cons, not_or] at h
    rw [List.cons_append, splitOn, if_neg (Ne.symm h.1), ih h.2]

theorem Text.splitOn_of_notMem (h : separator ∉ piece) : splitOn separator piece = [piece] := by
  induction piece with
  | nil => rfl
  | cons c piece ih =>
    rw [List.mem_cons, not_or] at h
    rw [splitOn, if_neg (Ne.symm h.1), ih h.2]

/-- **Joining is undone by splitting** if there is a piece and none of them holds the separator. -/
theorem Text.splitOn_intercalate {pieces : List (List Char)} (hne : pieces ≠ [])
    (h : ∀ piece ∈ pieces, separator ∉ piece) :
    splitOn separator ([separator].intercalate pieces) = pieces := by
  induction pieces with
  | nil => exact absurd rfl hne
  | cons piece pieces ih =>
    obtain ⟨hpiece, hpieces⟩ := List.forall_mem_cons.1 h
    -- the last piece has no separator behind it
    cases pieces with
    | nil => rw [List.intercalate_singleton, splitOn_of_notMem hpiece]
    | cons next pieces =>
      rw [List.intercalate_cons_cons, List.append_assoc, List.singleton_append,
        splitOn_append hpiece, ih (List.cons_ne_nil _ _) hpieces]

end

theorem Text.toList_intercalate_ofList (separator : String) (pieces : List (List Char)) :
    (separator.intercalate (pieces.map String.ofList)).toList =
      separator.toList.intercalate pieces := by
  have h : String.toList ∘ String.ofList = id := funext fun cs => String.toList_ofList
  rw [String.toList_intercalate, List.map_map, h, List.map_id]

theorem intercalate_pathSteps (path : String) : ".".intercalate (pathSteps path) = path := by
  apply String.toList_injective
  rw [pathSteps, Text.toList_intercalate_ofList]
  exact Text.intercalate_splitOn '.' path.toList

/-- **A key that is the whole path wins.** -/
theorem lookup_of_get? {row : Record} {path : String} {v : Json}
    (h : Record.get? row path = some v) : lookup row path = some v := by
  have hjoin := intercalate_pathSteps path
  -- the steps joined are the path, so a path of one step is that step
  unfold lookup
  cases hsteps : pathSteps path with
  | nil => exact absurd (List.map_eq_nil_iff.1 hsteps) Text.splitOn_ne_nil
  | cons first rest =>
    rw [hsteps] at hjoin
    cases rest with
    | nil =>
      rw [String.intercalate_singleton] at hjoin
      rw [lookupSteps, hjoin, h]
    | cons next rest =>
      rw [lookupSteps, hjoin, h]

/-- **A look-up reads two keys of a row**: the whole path and its first step. -/
theorem lookup_congr {row row' : Record} {path first : String} {rest : List String}
    (hsteps : pathSteps path = first :: rest)
    (hwhole : Record.get? row path = Record.get? row' path)
    (hfirst : Record.get? row first = Record.get? row' first) :
    lookup row path = lookup row' path := by
  have hjoin := intercalate_pathSteps path
  unfold lookup
  rw [hsteps] at hjoin ⊢
  cases rest with
  | nil => exact hfirst
  | cons next rest => rw [lookupSteps, lookupSteps, hjoin, hwhole, hfirst]

theorem wellFormed_of_lookupSteps {steps : List String} {row : Record} {cell : Json}
    (hrow : (Json.object row).WellFormed) (h : lookupSteps steps row = some cell) :
    cell.WellFormed := by
  have hget {row : Record} {key : String} {value : Json} (hrow : (Json.object row).WellFormed)
      (hvalue : Record.get? row key = some value) : value.WellFormed :=
    Json.wellFormedEntries_iff.1 hrow.2 _ (Record.mem_of_get?_eq_some hvalue)
  -- along the steps: a value at the end is one of the row reached
  fun_induction lookupSteps steps row with
  | case1 => exact absurd h nofun
  | case2 row key => exact hget hrow h
  | case3 row head next rest value hvalue =>
    obtain rfl := Option.some.inj h
    exact hget hrow hvalue
  | case4 row head next rest _ inner hinner ih => exact ih (hget hrow hinner) h
  | case5 => exact absurd h nofun

/-- **The cells of a well-formed row are well formed.** -/
theorem wellFormed_cellAt {row : Record} (hrow : (Json.object row).WellFormed) (path : String) :
    (cellAt row path).WellFormed := by
  unfold cellAt
  cases hcell : lookup row path with
  | none => trivial
  | some cell => exact wellFormed_of_lookupSteps hrow hcell

/-! ### Compiled conditions -/

theorem acceptedPattern_eq_ok_iff {p pattern : String} :
    acceptedPattern p = .ok pattern ↔ Wildcard.size p ≤ patternSizeLimit ∧ pattern = p := by
  unfold acceptedPattern
  split
  case isTrue h => exact ⟨fun hok => ⟨h, (Except.ok.inj hok).symm⟩, fun hok => hok.2 ▸ rfl⟩
  case isFalse h => exact iff_of_false nofun fun hok => h hok.1

theorem checkLiteral_eq_ok_iff {column : String} {type : ColumnType} {v : Json} :
    checkLiteral column type v = .ok () ↔ literalFits type v = true := by
  unfold checkLiteral
  split
  case isTrue h => exact iff_of_true rfl h
  case isFalse h => exact iff_of_false nofun h

namespace CompiledCondition

/-- **Inversion of compiling.** -/
theorem of_compile (h : compile schema c = .ok compiled) : compiled.condition = c ∧
    schema.resolve c.column = some compiled.type ∧ patternOf c = .ok compiled.pattern := by
  unfold compile at h
  obtain ⟨type, htype, h⟩ := bind_eq_ok_iff.1 h
  obtain ⟨⟨⟩, -, h⟩ := bind_eq_ok_iff.1 h
  obtain ⟨pattern, hpattern, h⟩ := bind_eq_ok_iff.1 h
  obtain rfl := Except.ok.inj h
  exact ⟨rfl, Schema.require_eq_ok_iff.1 htype, hpattern⟩

/-- **A test looks at one cell**, and is not met if it is null. -/
theorem test_eq_testCell (row : Record) : compiled.test row =
    (!(cellAt row compiled.condition.column).isNull &&
      compiled.testCell (cellAt row compiled.condition.column)) := by
  unfold test cellAt
  -- a missing cell is null, and null is met by nothing
  cases lookup row compiled.condition.column with
  | none => rfl
  | some cell => cases cell <;> rfl

end CompiledCondition

end Pushdown
