import Pushdown.Proofs.Statement.Acceptance

/-!
# Clauses that are dropped

Some clauses restrict the rows that a statement is about, or say in which order they come, and
nothing in a `SelectStatement` or a `DeleteStatement` stands for them: `TOP`, `FETCH`, `LIMIT BY`,
`PREWHERE`, `QUALIFY` and `NULLS FIRST` of a selection, `USING`, `ORDER BY` and `LIMIT` of a
removal. A statement that carries one of them is `Restricted`.

Clauses of grouping, of joins and of further queries are refused, but none of these is. A restricted
statement is read as the one without its restrictions, `unrestricted`, with the same outcome down to
the message of a failure; so it is accepted exactly if what is left of it is supported. That is
`read_restricted`. A selection then answers more rows than were asked for, or puts nulls last, and a
removal removes more rows.
-/

namespace Pushdown

/-! ### Restrictions -/

/-- An order that puts nulls first. -/
def Sql.OrderItem.Restricted (o : Sql.OrderItem) : Prop := o.nullsFirst = some true

/-- **A selection with a filter or a bound of its own** besides `WHERE`. -/
def Sql.Select.Restricted (s : Sql.Select) : Prop :=
  s.top ≠ none ∨ s.prewhere ≠ none ∨ s.qualify ≠ none

/-- A query for such a selection. -/
def Sql.QueryBody.Restricted : Sql.QueryBody → Prop
  | .select s => s.Restricted
  | _ => False

/-- **A query that is restricted**, in its selection, its order or its window. -/
def Sql.Query.Restricted (q : Sql.Query) : Prop :=
  q.body.Restricted ∨ (∃ o ∈ q.orderBy, o.Restricted) ∨ q.limitBy ≠ [] ∨ q.fetch ≠ none

/-- **A removal that is restricted**: by another table, or to the first rows of an order. -/
def Sql.Delete.Restricted (d : Sql.Delete) : Prop :=
  d.using? ≠ none ∨ d.orderBy ≠ [] ∨ d.limit ≠ none

/-- **A selection or a removal that carries a restriction.** -/
def Sql.Statement.Restricted : Sql.Statement → Prop
  | .query q => q.Restricted
  | .delete d => d.Restricted
  | _ => False

/-- The key of an order with nulls where they are by default. -/
def Sql.OrderItem.unrestricted (o : Sql.OrderItem) : Sql.OrderItem :=
  if o.nullsFirst = some true then { o with nullsFirst := none } else o

/-- A selection with its `WHERE` alone. -/
def Sql.Select.unrestricted (s : Sql.Select) : Sql.Select :=
  { s with top := none, prewhere := none, qualify := none }

/-- A body with nothing but a `WHERE`. -/
def Sql.QueryBody.unrestricted : Sql.QueryBody → Sql.QueryBody
  | .select s => .select s.unrestricted
  | body => body

/-- A query without its restrictions. -/
def Sql.Query.unrestricted (q : Sql.Query) : Sql.Query :=
  { q with
    body := q.body.unrestricted
    orderBy := q.orderBy.map Sql.OrderItem.unrestricted
    limitBy := []
    fetch := none }

/-- A removal without its restrictions. -/
def Sql.Delete.unrestricted (d : Sql.Delete) : Sql.Delete :=
  { d with using? := none, orderBy := [], limit := none }

/-- **A statement without its restrictions**, and otherwise as it was. -/
def Sql.Statement.unrestricted : Sql.Statement → Sql.Statement
  | .query q => .query q.unrestricted
  | .delete d => .delete d.unrestricted
  | s => s

theorem Sql.OrderItem.not_restricted_unrestricted (o : Sql.OrderItem) :
    ¬ o.unrestricted.Restricted := by
  -- a key that put nulls first does not, and any other did not
  unfold unrestricted
  split
  case isTrue => exact nofun
  case isFalse h => exact h

theorem Sql.QueryBody.not_restricted_unrestricted (body : Sql.QueryBody) :
    ¬ body.unrestricted.Restricted := by
  cases body with
  | select s => simp [unrestricted, Restricted, Select.unrestricted, Select.Restricted]
  | values | other => exact id

/-- Without its restrictions a statement is not restricted. -/
theorem Sql.Statement.not_restricted_unrestricted (s : Sql.Statement) :
    ¬ s.unrestricted.Restricted := by
  cases s with
  | query q =>
    -- each restriction is one of these four, and is taken away
    rintro (hbody | ⟨o, ho, horder⟩ | hlimit | hfetch)
    · exact q.body.not_restricted_unrestricted hbody
    · obtain ⟨o, -, rfl⟩ := List.mem_map.1 ho
      exact o.not_restricted_unrestricted horder
    · exact hlimit rfl
    · exact hfetch rfl
  | delete d => simp [unrestricted, Restricted, Delete.unrestricted, Delete.Restricted]
  | insert | update | other => exact id

/-! ### Reading -/

theorem SortItem.ofSql_unrestricted (scope : Scope) (o : Sql.OrderItem) :
    SortItem.ofSql scope o.unrestricted = SortItem.ofSql scope o := by
  unfold Sql.OrderItem.unrestricted
  -- of a key only the expression and the direction are read
  split <;> rfl

/-- **The restrictions of a selection are not looked at.** -/
theorem SelectStatement.ofSql_unrestricted (q : Sql.Query) :
    SelectStatement.ofSql q.unrestricted = SelectStatement.ofSql q := by
  -- the order is read key by key
  have horder (scope : Scope) :
      (q.orderBy.map Sql.OrderItem.unrestricted).map (SortItem.ofSql scope) =
        q.orderBy.map (SortItem.ofSql scope) := by
    rw [List.map_map]
    exact List.map_congr_left fun o _ => SortItem.ofSql_unrestricted scope o
  unfold SelectStatement.ofSql Sql.Query.unrestricted
  dsimp only
  -- what is read of the clauses is the same, so reading comes to the same
  simp only [horder]
  cases q.body with
  | select | values | other => rfl

/-- The restrictions of a removal are not looked at. -/
theorem DeleteStatement.ofSql_unrestricted (d : Sql.Delete) :
    DeleteStatement.ofSql d.unrestricted = DeleteStatement.ofSql d := rfl

/-- **A statement is read as the one without its restrictions.** -/
theorem Statement.ofSql_unrestricted (s : Sql.Statement) :
    Statement.ofSql s.unrestricted = Statement.ofSql s := by
  cases s with
  | query q => exact congrArg (Except.map Statement.select) (SelectStatement.ofSql_unrestricted q)
  | delete d => exact congrArg (Except.map Statement.delete) (DeleteStatement.ofSql_unrestricted d)
  | insert | update | other => rfl

/-- **Restrictions are dropped.** A text that holds a restricted statement is read as the statement
without its restrictions, which is another one, and what is left is the only thing that it can be
refused for. -/
theorem Statement.read_restricted {text : String} {s : Sql.Statement}
    (hread : Sql.Statement.readAll text = .ok [s]) (hs : s.Restricted) :
    s.unrestricted ≠ s ∧ ¬ s.unrestricted.Restricted ∧
      Statement.read text = Statement.ofSql s.unrestricted ∧
      ((∃ statement, Statement.read text = .ok statement) ↔ s.unrestricted.Supported) := by
  have hread : Statement.read text = Statement.ofSql s.unrestricted := by
    rw [read_of_readAll hread, ofSql_unrestricted]
  refine ⟨fun heq => ?_, s.not_restricted_unrestricted, hread, ?_⟩
  · -- a statement without restrictions is not restricted, so it is another one
    rw [← heq] at hs
    exact s.not_restricted_unrestricted hs
  · rw [hread]
    exact ofSql_isOk_iff

/-! ### Instances -/

/-- The table of the instances. -/
def docsSource : Sql.JoinedSource := ⟨⟨.named [.bare "docs"], "docs", none, ""⟩, []⟩

/-- A selection of the first row only, of an order with nulls first. -/
def firstRow : Sql.Query :=
  let body := Sql.QueryBody.select
    { distinct := none, top := some "TOP 1", projection := [.expr (.column [.bare "id"]) none],
      into := none, sources := [docsSource], lateralViews := [], prewhere := none,
      selection := none, groupBy := none, distribution := [], having := none, windows := none,
      qualify := none, windowsFirst := false, hierarchy := none }
  { Sql.Query.ofBody none body with orderBy := [⟨.column [.bare "id"], none, some true, none⟩] }

/-- The first row is asked for, and what is read is a selection of all rows. -/
theorem Statement.read_restricted_firstRow :
    firstRow.Restricted ∧
      Sql.Statement.readAll "SELECT TOP 1 id FROM docs ORDER BY id NULLS FIRST" =
        .ok [.query firstRow] ∧
      Statement.read "SELECT TOP 1 id FROM docs ORDER BY id NULLS FIRST" =
        .ok (.select ⟨[.expr (.column "id") none], some ⟨"docs", none⟩, none,
          [⟨.column "id", true⟩], none, none⟩) := by
  have htokens : Sql.tokens "SELECT TOP 1 id FROM docs ORDER BY id NULLS FIRST".toList =
      .ok [.word (.bare "SELECT") "SELECT", .word (.bare "TOP") "TOP", .number "1" false,
        .word (.bare "id") "ID", .word (.bare "FROM") "FROM", .word (.bare "docs") "DOCS",
        .word (.bare "ORDER") "ORDER", .word (.bare "BY") "BY", .word (.bare "id") "ID",
        .word (.bare "NULLS") "NULLS", .word (.bare "FIRST") "FIRST"] :=
    eq_ok_of_toOption (by decide +kernel)
  have hread : Sql.Statement.readAll "SELECT TOP 1 id FROM docs ORDER BY id NULLS FIRST" =
      .ok [.query firstRow] :=
    Sql.Statement.readAll_of_tokens htokens (by with_unfolding_all rfl)
  -- the first restriction of the text, and the order has a second one
  have hrestricted : firstRow.Restricted := .inl (.inl nofun)
  refine ⟨hrestricted, hread, ?_⟩
  exact (Statement.read_restricted hread hrestricted).2.2.1.trans rfl

/-- A removal of at most one row. -/
def oneRemoval : Sql.Delete where
  tables := [docsSource]
  using? := none
  selection := some (.binary (.column [.bare "k"]) .eq (.quoted "a"))
  orderBy := []
  limit := some (.number "1" false)

/-- **A removal of at most one row is read as a removal of all.** -/
theorem Statement.read_removal_drops_limit :
    oneRemoval.Restricted ∧
      Sql.Statement.readAll "DELETE FROM docs WHERE k = 'a' LIMIT 1" = .ok [.delete oneRemoval] ∧
      Statement.read "DELETE FROM docs WHERE k = 'a' LIMIT 1" =
        .ok (.delete ⟨⟨"docs", none⟩, some (.binary (.column "k") .eq (.literal "a"))⟩) := by
  have htokens : Sql.tokens "DELETE FROM docs WHERE k = 'a' LIMIT 1".toList =
      .ok [.word (.bare "DELETE") "DELETE", .word (.bare "FROM") "FROM",
        .word (.bare "docs") "DOCS", .word (.bare "WHERE") "WHERE", .word (.bare "k") "K",
        .symbol "=", .quoted "a", .word (.bare "LIMIT") "LIMIT", .number "1" false] :=
    eq_ok_of_toOption (by decide +kernel)
  have hread : Sql.Statement.readAll "DELETE FROM docs WHERE k = 'a' LIMIT 1" =
      .ok [.delete oneRemoval] :=
    Sql.Statement.readAll_of_tokens htokens rfl
  refine ⟨.inr (.inr nofun), hread, ?_⟩
  rw [read_of_readAll hread]
  rfl

end Pushdown
