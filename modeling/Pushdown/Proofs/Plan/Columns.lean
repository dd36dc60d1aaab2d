import Mathlib.Data.List.Induction
import Mathlib.Data.List.Nodup
import Pushdown.Proofs.Json.Entries
import Pushdown.Proofs.Plan.Planned
import Pushdown.Rows.Completion

/-!
# Columns of an answer

Names are freed of repetitions in three places: the columns asked for when a spec is made, the
columns read when it is planned, and the cells of a row when it is put together. Each keeps a name
where it first stands, so all three are `firstOccurrences`: of the names asked for
(`outputNames_targetColumns`) and of the keys of entries (`Record.keys_ofList`).

A list of first occurrences has no repetitions, and one without repetitions is left as it is. So the
second and the third pass find nothing to drop if the first was made or the declared columns are
distinct, and the rows of a plan have exactly its columns, `complete_uniform`.
-/

namespace Pushdown

/-! ### First occurrences -/

section

variable {items : List String} {a : String}

/-- A further item is added unless it is there. -/
theorem firstOccurrences_append_singleton (items : List String) (a : String) :
    firstOccurrences (items ++ [a]) =
      if a ∈ firstOccurrences items then firstOccurrences items
      else firstOccurrences items ++ [a] := by
  unfold firstOccurrences
  rw [List.foldl_append, List.foldl_cons, List.foldl_nil]
  simp only [List.contains_iff_mem]

theorem mem_firstOccurrences : a ∈ firstOccurrences items ↔ a ∈ items := by
  -- from the end, as the names are passed through from the front
  induction items using List.reverseRecOn with
  | nil => exact Iff.rfl
  | append_singleton items b ih =>
    rw [firstOccurrences_append_singleton, List.mem_append, List.mem_singleton]
    split
    case isTrue hb =>
      rw [ih]
      refine ⟨.inl, fun h => h.elim id ?_⟩
      rintro rfl
      exact ih.1 hb
    case isFalse => rw [List.mem_append, List.mem_singleton, ih]

theorem nodup_firstOccurrences (items : List String) : (firstOccurrences items).Nodup := by
  induction items using List.reverseRecOn with
  | nil => exact List.nodup_nil
  | append_singleton items b ih =>
    rw [firstOccurrences_append_singleton]
    split
    case isTrue => exact ih
    case isFalse hb =>
      rw [← List.concat_eq_append]
      exact (List.nodup_concat _ _).2 ⟨hb, ih⟩

/-- What comes first stays first. -/
theorem firstOccurrences_prefix_append (items others : List String) :
    firstOccurrences items <+: firstOccurrences (items ++ others) := by
  induction others using List.reverseRecOn with
  | nil => exact (List.append_nil items).symm ▸ List.prefix_rfl
  | append_singleton others a ih =>
    rw [← List.append_assoc, firstOccurrences_append_singleton]
    split
    case isTrue => exact ih
    case isFalse => exact ih.trans (List.prefix_append _ _)

/-- **An item stands behind the first occurrences of what is before it.** -/
theorem exists_firstOccurrences_eq (h : a ∈ items) :
    ∃ after, firstOccurrences items =
      firstOccurrences (items.takeWhile (· ≠ a)) ++ a :: after := by
  -- the item where it first stands: nothing before is it, so it is new there
  obtain ⟨before, rest, rfl, hnew⟩ := List.eq_append_cons_of_mem h
  have htake : (before ++ a :: rest).takeWhile (· ≠ a) = before := by
    have hall : ∀ b ∈ before, decide (b ≠ a) = true :=
      fun b hb => decide_eq_true fun hba => hnew (hba ▸ hb)
    rw [List.takeWhile_append_of_pos hall, List.takeWhile_cons_of_neg (by simp), List.append_nil]
  have hsingle : firstOccurrences (before ++ [a]) = firstOccurrences before ++ [a] := by
    rw [firstOccurrences_append_singleton, if_neg fun hmem => hnew (mem_firstOccurrences.1 hmem)]
  obtain ⟨after, hafter⟩ := firstOccurrences_prefix_append (before ++ [a]) rest
  refine ⟨after, ?_⟩
  rw [htake, List.append_cons, ← hafter, hsingle, ← List.append_cons]

/-- **Where nothing is repeated nothing is dropped.** -/
theorem firstOccurrences_of_nodup (h : items.Nodup) : firstOccurrences items = items := by
  induction items using List.reverseRecOn with
  | nil => rfl
  | append_singleton items b ih =>
    -- the last name is none of those before, so it is added
    rw [← List.concat_eq_append, List.nodup_concat] at h
    obtain ⟨hb, hitems⟩ := h
    rw [firstOccurrences_append_singleton, ih hitems, if_neg hb]

end

/-- **A record made up from entries has their keys, each where it first stands.** -/
theorem Record.keys_ofList (es : List (String × Json)) :
    keys (ofList es) = firstOccurrences (keys es) := by
  induction es using List.reverseRecOn with
  | nil => rfl
  -- entry by entry: inserting and keeping what is new are the same step
  | append_singleton es e ih =>
    have hlast : ofList (es ++ [e]) = (ofList es).insert e.1 e.2 := List.foldl_concat _ _ _ _
    rw [hlast, keys_insert, keys_append, ih]
    exact (firstOccurrences_append_singleton (keys es) e.1).symm

/-! ### Columns asked for -/

/-- The name under which a target returns a column. -/
def SelectTarget.outputName? : SelectTarget → Option String
  | .expr (.column path) alias? => some (alias?.getD path)
  | _ => none

/-- The names asked for, in the order in which they are written. -/
def requestedNames (targets : List SelectTarget) : List String :=
  targets.filterMap SelectTarget.outputName?

/-- A plain column is returned under its path. -/
theorem outputNames_plain (names : List String) :
    (names.map ProjectedColumn.plain).map (·.outputName) = names := by
  rw [List.map_map]
  exact List.map_id names

/-- **The columns asked for are returned under the names asked for**, each where it is first
written. What was found before are the first occurrences of other names. -/
theorem outputNames_targetColumns {targets : List SelectTarget} {names : List String}
    {found columns : List ProjectedColumn}
    (hfound : found.map (·.outputName) = firstOccurrences names)
    (h : targetColumns found targets = .ok columns) :
    columns.map (·.outputName) = firstOccurrences (names ++ requestedNames targets) := by
  -- target by target, with what was found so far and the names that it was found for
  induction targets generalizing names found with
  | nil =>
    obtain rfl := Except.ok.inj h
    rw [hfound]
    exact congrArg firstOccurrences (List.append_nil names).symm
  | cons target targets ih =>
    cases target with
    | wildcard => exact ih hfound h
    | expr e alias? =>
      cases e with
      | column path =>
        let c : ProjectedColumn := ⟨path, alias?⟩
        have hsplit : names ++ requestedNames (.expr (.column path) alias? :: targets) =
            (names ++ [c.outputName]) ++ requestedNames targets := List.append_cons names _ _
        rw [hsplit]
        refine ih ?_ h
        -- the column is added exactly if its name is a new one
        have htaken : found.any (·.outputName == c.outputName) = true ↔
            c.outputName ∈ firstOccurrences names := by
          rw [← hfound, List.any_eq_true]
          simp only [List.mem_map, beq_iff_eq]
        rw [firstOccurrences_append_singleton]
        by_cases hmem : c.outputName ∈ firstOccurrences names
        · rw [if_pos (htaken.2 hmem), if_pos hmem, hfound]
        · rw [if_neg (fun hany => hmem (htaken.1 hany)), if_neg hmem, List.map_append, hfound]
          rfl
      | literal | binary | inList | like | not | call | raw => exact absurd h nofun

/-- Targets of which none asks for all columns ask for some by name. -/
theorem requestedNames_ne_nil {targets : List SelectTarget} {found columns : List ProjectedColumn}
    (h : targetColumns found targets = .ok columns) (hne : targets ≠ [])
    (hwildcard : targets.any SelectTarget.isWildcard = false) : requestedNames targets ≠ [] := by
  cases targets with
  | nil => exact absurd rfl hne
  | cons target targets =>
    -- a column has a path, and anything else was refused
    cases target with
    | wildcard => exact absurd hwildcard nofun
    | expr e alias? =>
      cases e with
      | column path => exact List.cons_ne_nil _ _
      | literal | binary | inList | like | not | call | raw => exact absurd h nofun

/-- **The columns that a selection asks for**: all that rows carry if there is a wildcard, and the
first occurrences of the names asked for otherwise. -/
def SelectStatement.answerColumns (s : SelectStatement) (schema : Schema) : List String :=
  if s.targets.any SelectTarget.isWildcard then schema.outputColumns
  else firstOccurrences (requestedNames s.targets)

/-- **The columns of a resolved projection** are those that the selection asks for, if it asks for
any. -/
theorem outputNames_of_ofSelect {s : SelectStatement} {spec : Spec} {schema : Schema}
    {output : List ProjectedColumn} (hne : s.targets ≠ []) (hspec : Spec.ofSelect s = .ok spec)
    (houtput : resolveProjection schema spec.projection = .ok output) :
    output.map (·.outputName) = s.answerColumns schema := by
  unfold Spec.ofSelect at hspec
  obtain ⟨conditions, -, hspec⟩ := bind_eq_ok_iff.1 hspec
  obtain ⟨projection, hprojection, hspec⟩ := bind_eq_ok_iff.1 hspec
  obtain ⟨orderBy, -, hspec⟩ := bind_eq_ok_iff.1 hspec
  obtain rfl := Except.ok.inj hspec
  unfold Projection.ofTargets at hprojection
  obtain ⟨columns, hcolumns, hprojection⟩ := bind_eq_ok_iff.1 hprojection
  obtain rfl := Except.ok.inj hprojection
  -- nothing has been found before the first target
  have hnone : ([] : List ProjectedColumn).map (·.outputName) = firstOccurrences [] := rfl
  have hnames : columns.map (·.outputName) = firstOccurrences (requestedNames s.targets) :=
    outputNames_targetColumns hnone hcolumns
  unfold SelectStatement.answerColumns
  cases hwildcard : s.targets.any SelectTarget.isWildcard with
  | true =>
    rw [if_pos rfl]
    simp only [hwildcard, Bool.true_or, if_true] at houtput
    obtain rfl := Except.ok.inj houtput
    exact outputNames_plain _
  | false =>
    -- there is a target, and it is no wildcard, so a column was found
    have hrequested : requestedNames s.targets ≠ [] :=
      requestedNames_ne_nil hcolumns hne hwildcard
    have hcolumnsNe : columns.isEmpty = false := by
      cases columns with
      | cons c columns => rfl
      | nil =>
        have hnil : firstOccurrences (requestedNames s.targets) = [] := hnames.symm
        obtain ⟨name, hname⟩ := List.exists_mem_of_ne_nil _ hrequested
        exact absurd (hnil ▸ mem_firstOccurrences.2 hname) List.not_mem_nil
    simp only [hwildcard, hcolumnsNe, Bool.or_self, Bool.false_eq_true, if_false] at houtput
    obtain ⟨-, -, houtput⟩ := bind_eq_ok_iff.1 houtput
    obtain rfl := Except.ok.inj houtput
    exact hnames

/-! ### Rows -/

/-- The cells of a row of an answer stand under the columns, each where it first stands. -/
theorem keys_projectRow (output : List ProjectedColumn) (row : Record) :
    Record.keys (projectRow output row) = firstOccurrences (output.map (·.outputName)) := by
  unfold projectRow
  rw [Record.keys_ofList]
  exact congrArg firstOccurrences List.map_map

/-- **The answer to a plan with distinct columns is uniform.** -/
theorem Plan.complete_uniform {p : Plan} {schema : Schema} {rows : List Record} {answer : RowSet}
    (hdistinct : p.outputNames.Nodup) (h : p.complete schema rows = .ok answer) :
    answer.columns = p.outputNames ∧ answer.Uniform := by
  unfold Plan.complete at h
  obtain ⟨filters, -, h⟩ := bind_eq_ok_iff.1 h
  obtain rfl := Except.ok.inj h
  refine ⟨rfl, fun row hrow => ?_⟩
  -- a row of the answer is put together from the columns of the plan
  obtain ⟨source, -, rfl⟩ := List.mem_map.1 hrow
  rw [keys_projectRow]
  exact firstOccurrences_of_nodup hdistinct

end Pushdown
