import Pushdown.Proofs.Outcome
import Pushdown.Statement

/-!
# Statements that are accepted

A statement is read from the tree of its clauses, and some trees are refused. What is looked at is
said here for each of the four kinds: `Supported` lists the conditions on a tree, and
`Statement.ofSql_isOk_iff` says that a tree is accepted exactly if it meets them. A clause that is
in no condition is no reason for a refusal.

An insertion is taken apart further, `InsertStatement.ofSql_eq_ok_iff`: what is accepted is its
columns and its rows of values, of which every row is as wide as the list of columns, if there is
one.

The way from a text to trees is a computation of its own. For a given text it is followed in two
steps, `readAll_of_tokens`.
-/

namespace Pushdown

/-! ### Conditions on trees -/

/-- A source that is a table. -/
def Sql.Source.IsTable (s : Sql.Source) : Prop := ∃ parts, s.kind = .named parts

/-- An expression that is a count: a plain number below two to the sixty-fourth. -/
def Sql.Expr.IsCount (e : Sql.Expr) : Prop :=
  ∃ digits long n, e = .number digits long ∧ Number.readNat64? digits.toList = some n

/-- **A selection that is supported**: from at most one table, and neither joined nor grouped. -/
structure Sql.Select.Supported (s : Sql.Select) : Prop where
  /-- At most one source. -/
  single : s.sources.length ≤ 1
  /-- Nothing is joined to it. -/
  joins : ∀ t ∈ s.sources, t.joins = []
  /-- It is a table. -/
  table : ∀ t ∈ s.sources, t.source.IsTable
  distinct : s.distinct = none
  having : s.having = none
  groupBy : s.groupBy = none

/-- **A query that is supported**: a selection with counts for a window. -/
structure Sql.Query.Supported (q : Sql.Query) : Prop where
  with? : q.with? = none
  select : ∃ s, q.body = .select s ∧ s.Supported
  limit : ∀ e ∈ q.limit, e.IsCount
  offset : ∀ o ∈ q.offset, o.value.IsCount

/-- The rows of values that an insertion gives, if it does not select them. -/
def Sql.Insert.valueRows? (i : Sql.Insert) : Option (List (List Expression)) :=
  match i.source with
  | some q =>
    match q.body with
    | .values rows _ =>
      some (rows.map (Expression.ofSqls (TableRef.scope ⟨lastName i.table, none⟩)))
    | _ => none
  | none => none

/-- The columns that an insertion names. -/
def Sql.Insert.columnNames (i : Sql.Insert) : List String := i.columns.map (·.value)

/-- **Rows as wide as a list of columns**, if there is one. -/
def FitColumns (columns : List String) (rows : List (List Expression)) : Prop :=
  columns ≠ [] → ∀ row ∈ rows, row.length = columns.length

/-- **An insertion that is supported**: one of values, of the right width. -/
def Sql.Insert.Supported (i : Sql.Insert) : Prop :=
  ∃ rows, i.valueRows? = some rows ∧ FitColumns i.columnNames rows

/-- **A change that is supported**: of a table, column by column. -/
structure Sql.Update.Supported (u : Sql.Update) : Prop where
  table : u.table.source.IsTable
  columns : ∀ a ∈ u.assignments, ∃ parts, a.1 = .column parts

/-- **A removal that is supported**: from one table, with nothing joined to it. -/
def Sql.Delete.Supported (d : Sql.Delete) : Prop :=
  ∃ t, d.tables = [t] ∧ t.joins = [] ∧ t.source.IsTable

/-- **A statement that is supported.** -/
def Sql.Statement.Supported : Sql.Statement → Prop
  | .query q => q.Supported
  | .insert i => i.Supported
  | .update u => u.Supported
  | .delete d => d.Supported
  | .other _ => False

/-! ### Tables and counts -/

theorem TableRef.ofSql_isOk_iff {s : Sql.Source} : IsOk (TableRef.ofSql s) ↔ s.IsTable := by
  unfold TableRef.ofSql Sql.Source.IsTable IsOk
  cases s.kind <;> simp

theorem countOf_isOk_iff {clause : String} {e : Sql.Expr} :
    IsOk (countOf clause e) ↔ e.IsCount := by
  unfold countOf
  split
  case h_1 digits long =>
    -- a number is a count exactly if its digits are one
    have hcount : (Sql.Expr.number digits long).IsCount ↔
        ∃ n, Number.readNat64? digits.toList = some n := by simp [Sql.Expr.IsCount]
    rw [hcount]
    cases Number.readNat64? digits.toList with
    | some n => exact iff_of_true isOk_ok ⟨n, rfl⟩
    | none => exact iff_of_false not_isOk_error nofun
  case h_2 hnumber =>
    exact iff_of_false not_isOk_error fun ⟨digits, long, _, he, _⟩ => hnumber digits long he

theorem countOf?_isOk_iff {clause : String} {e : Option Sql.Expr} :
    IsOk (countOf? clause e) ↔ ∀ c ∈ e, c.IsCount := by
  cases e with
  | none => exact iff_of_true isOk_ok nofun
  | some e => simp [countOf?, isOk_map_iff, countOf_isOk_iff]

theorem onlyTable_isOk_iff {sources : List Sql.JoinedSource} (h : sources.length ≤ 1) :
    IsOk (onlyTable sources) ↔ ∀ t ∈ sources, t.source.IsTable := by
  -- of at most one source there is none or one
  match sources, h with
  | [], _ => exact iff_of_true isOk_ok nofun
  | [t], _ => simp [onlyTable, isOk_map_iff, TableRef.ofSql_isOk_iff]

/-! ### The four kinds -/

/-- The sources are one table or none, with nothing joined to it. -/
theorem sources_iff {sources : List Sql.JoinedSource} :
    (¬ (decide (1 < sources.length) || sources.head?.any fun t => !t.joins.isEmpty) = true) ↔
      sources.length ≤ 1 ∧ ∀ t ∈ sources, t.joins = [] := by
  -- more than one source is refused for their number
  match sources with
  | [] => simp
  | [t] => simp
  | t :: u :: rest => simp

/-- **Which selections are accepted.** -/
theorem SelectStatement.ofSql_isOk_iff {q : Sql.Query} :
    IsOk (SelectStatement.ofSql q) ↔ q.Supported := by
  unfold SelectStatement.ofSql
  dsimp only
  rw [isOk_refusal_iff, Option.not_isSome_iff_eq_none]
  cases hbody : q.body with
  | select s =>
    dsimp only
    simp only [isOk_refusal_iff, Option.not_isSome_iff_eq_none, sources_iff]
    -- behind the refusals only the table and the two counts can fail
    rw [isOk_bind_iff fun source => isOk_bind_iff fun limit => isOk_bind_iff fun offset =>
      iff_true_intro isOk_pure, countOf?_isOk_iff, countOf?_isOk_iff]
    have hoffset : (∀ e ∈ q.offset.map (·.value), e.IsCount) ↔ ∀ o ∈ q.offset, o.value.IsCount := by
      cases q.offset <;> simp
    rw [hoffset]
    constructor
    · rintro ⟨hwith, ⟨hsingle, hjoins⟩, hdistinct, hhaving, hgroupBy, htable, hlimit, hoffset, -⟩
      have hs : s.Supported := {
        single := hsingle
        joins := hjoins
        table := (onlyTable_isOk_iff hsingle).1 htable
        distinct := hdistinct
        having := hhaving
        groupBy := hgroupBy }
      exact ⟨hwith, ⟨s, hbody, hs⟩, hlimit, hoffset⟩
    · intro h
      obtain ⟨s', hs', hs⟩ := h.select
      -- the body is the selection that is supported, as it is only one
      obtain rfl := Sql.QueryBody.select.inj (hbody.symm.trans hs')
      exact ⟨h.with?, ⟨hs.single, hs.joins⟩, hs.distinct, hs.having, hs.groupBy,
        (onlyTable_isOk_iff hs.single).2 hs.table, h.limit, h.offset, trivial⟩
  | values rows explicit | other whole =>
    refine iff_of_false (fun h => not_isOk_error h.2) fun h => ?_
    -- a query that is supported selects
    obtain ⟨s, hs, -⟩ := h.select
    exact absurd (hbody.symm.trans hs) nofun

/-- The search for a row of the wrong width. -/
theorem find?_eq_none_iff_fitColumns {columns : List String} {rows : List (List Expression)} :
    rows.find? (fun row => !columns.isEmpty && row.length != columns.length) = none ↔
      FitColumns columns rows := by
  simp only [List.find?_eq_none, FitColumns, Bool.and_eq_true, Bool.not_eq_true', bne_iff_ne,
    List.isEmpty_eq_false_iff, not_and, not_not]
  exact ⟨fun h hne row hrow => h row hrow hne, fun h row hrow hne => h hne row hrow⟩

/-- **Which insertions are accepted, and as what.** -/
theorem InsertStatement.ofSql_eq_ok_iff {tree : Sql.Insert} {i : InsertStatement} :
    InsertStatement.ofSql tree = .ok i ↔ ∃ rows, tree.valueRows? = some rows ∧
      FitColumns tree.columnNames rows ∧
      i = ⟨⟨lastName tree.table, none⟩, tree.columnNames, rows⟩ := by
  unfold InsertStatement.ofSql Sql.Insert.valueRows?
  dsimp only
  -- an insertion without values has none, and one with values is refused for a row only
  cases tree.source with
  | none => exact iff_of_false nofun nofun
  | some q =>
    dsimp only
    cases q.body with
    | select s | other whole => exact iff_of_false nofun nofun
    | values rows explicit =>
      simp only [Option.some.injEq, exists_eq_left', ← find?_eq_none_iff_fitColumns]
      split
      case h_1 row hfound => exact iff_of_false nofun fun h => nomatch hfound.symm.trans h.1
      case h_2 hfits =>
        exact ⟨fun h => ⟨hfits, (Except.ok.inj h).symm⟩, fun h => congrArg Except.ok h.2.symm⟩

theorem InsertStatement.ofSql_isOk_iff {tree : Sql.Insert} :
    IsOk (InsertStatement.ofSql tree) ↔ tree.Supported := by
  unfold IsOk Sql.Insert.Supported
  simp only [ofSql_eq_ok_iff]
  exact ⟨fun ⟨_, rows, hrows, hfit, _⟩ => ⟨rows, hrows, hfit⟩,
    fun ⟨rows, hrows, hfit⟩ => ⟨_, rows, hrows, hfit, rfl⟩⟩

theorem assignmentOf_isOk_iff {scope : Scope} {a : Sql.AssignmentTarget × Sql.Expr} :
    IsOk (assignmentOf scope a) ↔ ∃ parts, a.1 = .column parts := by
  obtain ⟨target, e⟩ := a
  cases target with
  | column parts => exact iff_of_true isOk_ok ⟨parts, rfl⟩
  | tuple columns => exact iff_of_false not_isOk_error nofun

/-- **Which changes are accepted.** -/
theorem UpdateStatement.ofSql_isOk_iff {u : Sql.Update} :
    IsOk (UpdateStatement.ofSql u) ↔ u.Supported := by
  unfold UpdateStatement.ofSql
  -- behind the table only the targets of the assignments can fail
  have hassignments (table : TableRef) : IsOk (do
      let assignments ← u.assignments.mapM (assignmentOf table.scope)
      return ⟨table, assignments, u.selection.map (.ofSql table.scope)⟩ :
        Except QueryError UpdateStatement) ↔ ∀ a ∈ u.assignments, ∃ parts, a.1 = .column parts := by
    rw [isOk_bind_iff fun assignments => iff_true_intro isOk_pure, and_true, isOk_mapM_iff]
    exact forall₂_congr fun _ _ => assignmentOf_isOk_iff
  rw [isOk_bind_iff hassignments, TableRef.ofSql_isOk_iff]
  exact ⟨fun h => ⟨h.1, h.2⟩, fun h => ⟨h.table, h.columns⟩⟩

/-- **Which removals are accepted.** -/
theorem DeleteStatement.ofSql_isOk_iff {d : Sql.Delete} :
    IsOk (DeleteStatement.ofSql d) ↔ d.Supported := by
  unfold DeleteStatement.ofSql Sql.Delete.Supported
  split
  case h_1 t htables =>
    -- one table, which is refused if it is joined or none
    dsimp only
    rw [isOk_refusal_iff, isOk_bind_iff fun table => iff_true_intro isOk_pure,
      TableRef.ofSql_isOk_iff, htables]
    simp
  case h_2 hnot =>
    exact iff_of_false not_isOk_error fun ⟨t, htables, _⟩ => hnot t htables

/-- **Which statements are accepted.** -/
theorem Statement.ofSql_isOk_iff {s : Sql.Statement} : IsOk (Statement.ofSql s) ↔ s.Supported := by
  cases s with
  | query q => exact isOk_map_iff.trans SelectStatement.ofSql_isOk_iff
  | insert i => exact isOk_map_iff.trans InsertStatement.ofSql_isOk_iff
  | update u => exact isOk_map_iff.trans UpdateStatement.ofSql_isOk_iff
  | delete d => exact isOk_map_iff.trans DeleteStatement.ofSql_isOk_iff
  | other keyword => exact iff_of_false not_isOk_error id

/-! ### From text -/

/-- A text is read in two steps, its tokens and the statements that they form. -/
theorem Sql.Statement.readAll_of_tokens {text : String} {ts rest : List Sql.Token}
    {found : List Sql.Statement} (htokens : Sql.tokens text.toList = .ok ts)
    (hfound : Sql.statements (.within (2 * (ts.length + Sql.depthLimit + 1)) false Sql.depthLimit)
      (2 * (ts.length + Sql.depthLimit + 1)) true ts = .ok (found, rest)) :
    Sql.Statement.readAll text = .ok found :=
  bind_eq_ok_iff.2 ⟨ts, htokens, bind_eq_ok_iff.2 ⟨(found, rest), hfound, rfl⟩⟩

/-- A text that holds one statement is read as that. -/
theorem Statement.read_of_readAll {text : String} {s : Sql.Statement}
    (h : Sql.Statement.readAll text = .ok [s]) : Statement.read text = Statement.ofSql s := by
  unfold Statement.read
  rw [h]

/-- A selection from a table that has no clause but a filter, if that. -/
def Sql.Query.plain (projection : List Sql.SelectItem) (table : String)
    (selection : Option Sql.Expr) : Sql.Query :=
  .ofBody none <| .select
    { distinct := none, top := none, projection := projection, into := none,
      sources := [⟨⟨.named [.bare table], table, none, ""⟩, []⟩], lateralViews := [],
      prewhere := none, selection := selection, groupBy := none, distribution := [],
      having := none, windows := none, qualify := none, windowsFirst := false, hierarchy := none }

end Pushdown
