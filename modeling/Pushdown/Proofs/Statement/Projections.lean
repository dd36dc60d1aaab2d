import Pushdown.Proofs.Outcome
import Pushdown.Statement

/-!
# Selections ask for something

The grammar has no empty projection: behind SELECT stands a list between commas, and such a list has
at least one item. So a selection that was read from a text has a target, `targets_ne_nil_of_read`.

What a reader gives can be told from how it is put together. `Parse.Yields p P` says that `P` holds
of whatever `p` gives, on any tokens. It goes through a sequence of readers (`Yields.bind`), of
which only the last matters unless the result depends on an earlier one (`Yields.after`). From the
projection the property is passed on to the body (`QueryBody.Projects`), the query and the
statement. The grammar is tied together by an allowance, so the last step is an induction on it: a
reader one level down is a reader with a smaller allowance, or none at all.
-/

namespace Pushdown.Sql

/-! ### What readers give -/

namespace Parse

variable {α β : Type} {p : Parse α} {f : α → Parse β} {P : α → Prop} {Q : β → Prop}

/-- **Whatever a reader gives has a property.** -/
def Yields (p : Parse α) (P : α → Prop) : Prop :=
  ∀ ⦃ts : List Token⦄ ⦃a : α⦄ ⦃rest : List Token⦄, p ts = .ok (a, rest) → P a

theorem Yields.bind (hp : p.Yields P) (hf : ∀ a, P a → (f a).Yields Q) : (p >>= f).Yields Q := by
  intro ts b rest h
  -- a result comes from a result of the first reader
  obtain ⟨⟨a, rest'⟩, ha, hb⟩ := bind_eq_ok_iff.1 h
  exact hf a (hp ha) hb

/-- A reader behind others that do not matter. -/
theorem Yields.after (hf : ∀ a, (f a).Yields Q) : (p >>= f).Yields Q :=
  Yields.bind (P := fun _ => True) (fun _ _ _ _ => trivial) fun a _ => hf a

theorem Yields.pure {a : α} (h : P a) : (pure a : Parse α).Yields P := by
  intro ts b rest hb
  obtain ⟨rfl, -⟩ := Prod.mk.inj (Except.ok.inj hb)
  exact h

theorem Yields.error {e : SyntaxError} : Yields (fun _ => .error e) P := nofun

theorem Yields.fail {wanted : String} : (fail wanted : Parse α).Yields P := nofun

theorem Yields.ite {c : Prop} [Decidable c] {q : Parse α} (hp : p.Yields P) (hq : q.Yields P) :
    (if c then p else q).Yields P := by
  split
  case isTrue => exact hp
  case isFalse => exact hq

/-- One of two readers, and then a reader that follows either. -/
theorem Yields.either {c : Prop} [Decidable c] {p q : Parse α}
    (hf : ∀ a, (f a).Yields Q) : (if c then p >>= f else q >>= f).Yields Q :=
  .ite (.after hf) (.after hf)

/-- **A list between commas has an item.** -/
theorem commaSeparated_yields : (commaSeparated p).Yields (· ≠ []) := by
  refine .after fun ts => ?_
  cases ts.length + 1 with
  | zero => exact .fail
  | succ allowance =>
    -- the first item is there before the comma is looked for
    refine .after fun first => .after fun more => ?_
    refine .ite (.after fun rest => .pure ?_) (.pure ?_)
    · exact List.cons_ne_nil first rest
    · exact List.cons_ne_nil first []

end Parse

open Parse

/-! ### Queries -/

/-- **A body that asks for something**, if it is a selection. -/
def QueryBody.Projects (body : QueryBody) : Prop := ∀ s, body = .select s → s.projection ≠ []

/-- A query whose body asks for something. -/
def Query.Projects (q : Query) : Prop := q.body.Projects

/-- A statement that asks for something, if it is a query. -/
def Statement.Projects (s : Statement) : Prop := ∀ q, s = .query q → q.Projects

variable {g : Grammar}

theorem QueryBody.projects_select {s : Select} (h : s.projection ≠ []) :
    (QueryBody.select s).Projects := fun _ hs => QueryBody.select.inj hs ▸ h

theorem QueryBody.projects_other (text : String) : (QueryBody.other text).Projects :=
  fun _ h => absurd h nofun

/-- The list behind SELECT ends up in the tree as it was read. -/
theorem selectClauses_yields : (selectClauses g).Yields (·.projection ≠ []) := by
  refine .after fun distinct => .after fun top => ?_
  refine .bind commaSeparated_yields fun projection hprojection => ?_
  -- whatever clauses follow, the list is not touched again
  refine .after fun into => .after fun hasSources => .either fun sources => ?_
  refine .after fun lateralViews => .after fun prewhere => .after fun selection => ?_
  refine .after fun groupBy => .after fun cluster => .after fun distribute => ?_
  refine .after fun sort => .after fun having => .after fun windows => .after fun qualify => ?_
  refine .either fun laterWindows => .after fun hierarchy => ?_
  exact .pure hprojection

/-- Rows of values are no selection. -/
theorem valueRows_yields : (valueRows g).Yields QueryBody.Projects :=
  .after fun _ => .pure fun _ h => absurd h nofun

theorem tableBody_yields : tableBody.Yields QueryBody.Projects := by
  refine .after fun ts => ?_
  -- the word behind TABLE decides, and what is read is kept as its text
  split
  case h_1 =>
    split
    case h_1 => exact .after fun _ => .pure (QueryBody.projects_other _)
    case h_2 => exact .fail
  case h_2 => exact .after fun _ => .pure (QueryBody.projects_other _)
  case h_3 => exact .fail

/-- **Bodies**, alone and joined: a selection is among the single ones, and whatever is joined is
kept as its text. -/
theorem queryBody_yields (allowance : Nat) :
    (∀ bound, (queryBody g bound allowance).Yields QueryBody.Projects) ∧
    (∀ bound left, left.Projects →
      (setOperations g bound allowance left).Yields QueryBody.Projects) := by
  induction allowance with
  | zero =>
    constructor
    · intro bound
      rw [queryBody]
      exact .fail
    · intro bound left hleft
      rw [setOperations]
      exact .pure hleft
  | succ allowance ih =>
    constructor
    · intro bound
      rw [queryBody]
      have hjoined : ∀ first, first.Projects →
          (setOperations g bound allowance first).Yields QueryBody.Projects := ih.2 bound
      -- the first word decides which of the single bodies it is
      refine .after fun isSelect => .ite ?select <| .after fun isOpen => .ite ?nested <|
        .after fun isValues => .ite ?values <| .after fun isTable => .ite ?table ?neither
      case select =>
        exact .bind selectClauses_yields fun s hs =>
          .bind (.pure (QueryBody.projects_select hs)) hjoined
      case nested =>
        exact .after fun q => .after fun _ => .bind (.pure (QueryBody.projects_other _)) hjoined
      case values => exact .bind valueRows_yields hjoined
      case table => exact .bind tableBody_yields hjoined
      case neither => exact .bind (P := QueryBody.Projects) .fail hjoined
    · intro bound left hleft
      rw [setOperations]
      refine .after fun ts => .ite (.pure hleft) ?_
      refine .after fun t => .after fun quantifier => .after fun right => ?_
      exact ih.2 bound _ (QueryBody.projects_other _)

theorem queryClauses_yields {with? : Option String} :
    (queryClauses g with?).Yields Query.Projects := by
  -- the body is read first, and no clause behind it changes it
  refine .after fun ts => .bind ((queryBody_yields _).1 0) fun body hbody => ?_
  refine .after fun order => .either fun interpolate => ?_
  refine .after fun (limit, offset) => .after fun isBy => .either fun limitBy => ?_
  refine .after fun settings => .after fun fetch => .after fun ts' => ?_
  refine .after fun (locks, document) => .after fun format => ?_
  exact .pure hbody

/-- **Queries.** A change of rows in the place of a query is kept as its text. -/
theorem queryStatement_yields : (queryStatement g).Yields Query.Projects := by
  refine .after fun with? => .after fun isInsert => .ite ?insert <|
    .after fun isUpdate => .ite ?update ?query
  case insert => exact .after fun i => .pure (QueryBody.projects_other _)
  case update => exact .after fun u => .pure (QueryBody.projects_other _)
  case query => exact queryClauses_yields

/-! ### Statements -/

theorem Statement.projects_insert (i : Insert) : (Statement.insert i).Projects :=
  fun _ h => absurd h nofun

theorem Statement.projects_update (u : Update) : (Statement.update u).Projects :=
  fun _ h => absurd h nofun

theorem Statement.projects_delete (d : Delete) : (Statement.delete d).Projects :=
  fun _ h => absurd h nofun

theorem Statement.projects_other (keyword : String) : (Statement.other keyword).Projects :=
  fun _ h => absurd h nofun

theorem directoryInsert_yields {before : String} :
    (directoryInsert g before).Yields (·.1.Projects) := by
  refine .after fun place => .after fun isStored => .ite ?stored ?plain
  case stored =>
    exact .after fun _ => .after fun format => .after fun q => .pure (Statement.projects_other _)
  case plain =>
    exact .after fun format => .after fun q => .pure (Statement.projects_other _)

theorem tableInsert_yields {before : String} :
    (tableInsert g before).Yields (·.1.Projects) := by
  -- the columns may be missing, and are read before what is given
  refine .after fun table => .after fun hasNone => ?_
  extract_lets given
  have hgiven : ∀ parts, (given parts).Yields (·.1.Projects) := by
    intro parts
    refine .after fun rowAlias => .after fun conflict => .after fun returning => ?_
    exact .pure (Statement.projects_insert _)
  refine .ite (.after hgiven) <| .after fun columns => .after fun isPartitioned => ?_
  refine .ite ?partitioned ?plain
  case partitioned =>
    exact .after fun _ => .after fun partition => .after fun q => .after hgiven
  case plain => exact .after fun partition => .after fun q => .after hgiven

theorem insertStatement_yields : (insertStatement g).Yields (·.1.Projects) := by
  refine .after fun priority => .after fun ignore => .after fun action => .after fun isLocal => ?_
  refine .after fun isDirectory => .ite ?directory <| .after fun table => ?table
  case directory => exact directoryInsert_yields
  case table => exact tableInsert_yields

theorem updateStatement_yields : (updateStatement g).Yields (·.1.Projects) := by
  refine .after fun table => .after fun _ => .after fun assignments => .after fun source => ?_
  refine .after fun selection => .after fun returning => .pure ?_
  exact Statement.projects_update _

theorem deleteStatement_yields : (deleteStatement g).Yields Statement.Projects := by
  refine .after fun _ => .after fun tables => .after fun others => .after fun selection => ?_
  refine .after fun _ => .after fun order => .after fun hasLimit => .either fun limit => .pure ?_
  exact Statement.projects_delete _

/-- **Statements.** Only a query of the level below is kept as a query. -/
theorem statementBody_yields (hquery : g.query.Yields Query.Projects) :
    (statementBody g).Yields Statement.Projects := by
  -- the word at the start decides which of the readers goes on
  refine .after fun start => .after fun t => .ite ?query <| .ite ?insert <| .ite ?update <|
    .ite ?delete <| .ite ?unload <| .ite ?commit ?other
  case query =>
    refine .after fun _ => .bind hquery fun q hq => .pure fun q' h => ?_
    exact Statement.query.inj h ▸ hq
  case insert => exact .bind insertStatement_yields fun i hi => .pure hi
  case update => exact .bind updateStatement_yields fun u hu => .pure hu
  case delete => exact deleteStatement_yields
  case unload => exact .after fun _ => .pure (Statement.projects_other _)
  case commit => exact .after fun _ => .pure (Statement.projects_other _)
  case other =>
    split
    case h_1 => exact .after fun _ => .pure (Statement.projects_other _)
    case h_2 => exact .fail

/-! ### The grammar as a whole -/

/-- **One level down** there are the readers with a smaller allowance, or none. -/
theorem within_yields (allowance : Nat) (allowsPrior : Bool) (depth : Nat) :
    (Grammar.within allowance allowsPrior depth).query.Yields Query.Projects ∧
    (Grammar.within allowance allowsPrior depth).statement.Yields Statement.Projects := by
  -- no level below without an allowance or without depth
  induction allowance generalizing allowsPrior depth with
  | zero => exact ⟨.error, .error⟩
  | succ allowance ih =>
    cases depth with
    | zero => exact ⟨.error, .error⟩
    | succ depth =>
      exact ⟨queryStatement_yields, statementBody_yields (ih allowsPrior depth).1⟩

theorem statements_yields (hstatement : g.statement.Yields Statement.Projects)
    (allowance : Nat) (divided : Bool) :
    (statements g allowance divided).Yields (∀ s ∈ ·, s.Projects) := by
  induction allowance generalizing divided with
  | zero =>
    rw [statements]
    exact .pure (List.forall_mem_nil _)
  | succ allowance ih =>
    rw [statements]
    have hover : (pure [] : Parse (List Statement)).Yields (∀ s ∈ ·, s.Projects) :=
      .pure (List.forall_mem_nil _)
    -- a statement, a further divider, or the end
    refine .after fun isDivided => .ite (ih true) <| .after fun ts => .ite hover ?_
    refine .ite ?statement <| .after fun isEnd => .ite hover .fail
    refine .bind hstatement fun s hs => .bind (ih false) fun rest hrest => .pure ?_
    exact List.forall_mem_cons.2 ⟨hs, hrest⟩

/-- **Whatever is read from a text asks for something**, if it is a selection. -/
theorem Statement.projects_of_readAll {text : String} {found : List Statement}
    (h : Statement.readAll text = .ok found) : ∀ s ∈ found, s.Projects := by
  unfold Statement.readAll at h
  obtain ⟨ts, -, h⟩ := bind_eq_ok_iff.1 h
  obtain ⟨⟨found', rest⟩, hfound, h⟩ := bind_eq_ok_iff.1 h
  obtain rfl := Except.ok.inj h
  exact statements_yields (within_yields _ _ _).2 _ _ hfound

end Pushdown.Sql

namespace Pushdown

/-- The targets of a selection are the items of its projection. -/
theorem SelectStatement.targets_ne_nil {q : Sql.Query} {s : SelectStatement}
    (h : SelectStatement.ofSql q = .ok s) (hq : q.Projects) : s.targets ≠ [] := by
  unfold SelectStatement.ofSql at h
  dsimp only at h
  -- no clause but the body is looked at here
  obtain ⟨-, h⟩ := refusal_eq_ok_iff.1 h
  cases hbody : q.body with
  | values rows explicit | other whole =>
    rw [hbody] at h
    exact absurd h nofun
  | select tree =>
    rw [hbody] at h
    dsimp only at h
    obtain ⟨-, h⟩ := refusal_eq_ok_iff.1 h
    obtain ⟨-, h⟩ := refusal_eq_ok_iff.1 h
    obtain ⟨-, h⟩ := refusal_eq_ok_iff.1 h
    obtain ⟨-, h⟩ := refusal_eq_ok_iff.1 h
    obtain ⟨source, -, h⟩ := bind_eq_ok_iff.1 h
    obtain ⟨limit, -, h⟩ := bind_eq_ok_iff.1 h
    obtain ⟨offset, -, h⟩ := bind_eq_ok_iff.1 h
    obtain rfl := Except.ok.inj h
    -- the targets are read one by one, so there are none only if the projection is empty
    have hprojection : tree.projection ≠ [] := hq tree hbody
    exact fun hnil => hprojection (List.map_eq_nil_iff.1 hnil)

/-- **A selection that was read from a text has a target.** -/
theorem Statement.targets_ne_nil_of_read {text : String} {s : SelectStatement}
    (h : Statement.read text = .ok (.select s)) : s.targets ≠ [] := by
  unfold Statement.read at h
  -- one statement, and it has to be a query
  split at h
  case h_1 => exact absurd h nofun
  case h_3 => exact absurd h nofun
  case h_2 tree hread =>
    have htree : tree.Projects :=
      Sql.Statement.projects_of_readAll hread tree (List.mem_singleton_self tree)
    unfold Statement.ofSql at h
    cases tree with
    | query q =>
      obtain ⟨s', hs', h⟩ := map_eq_ok_iff.1 h
      obtain rfl := Statement.select.inj h
      exact SelectStatement.targets_ne_nil hs' (htree q rfl)
    | insert i =>
      obtain ⟨_, _, h⟩ := map_eq_ok_iff.1 h
      exact absurd h nofun
    | update u =>
      obtain ⟨_, _, h⟩ := map_eq_ok_iff.1 h
      exact absurd h nofun
    | delete d =>
      obtain ⟨_, _, h⟩ := map_eq_ok_iff.1 h
      exact absurd h nofun
    | other keyword => exact absurd h nofun

end Pushdown
