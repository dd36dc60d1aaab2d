import Pushdown.Proofs.Statement.Acceptance
import Pushdown.Proofs.Statement.Outlines

/-!
# Qualified columns

A column can be written with the table in front, `t.price` for `price` of `t`, under any name by
which the table goes and in any case of letters. The main statement, `Spec.read_qualified`, is that
it makes no difference where this is done: if a query asks for something, it asks for the same with
any of its columns qualified, and if it fails, it fails for a reason of the same kind.

Columns have paths of their own, and only one name is taken off in front. So a path of several parts
that itself begins with a name of the table is another column when it is qualified, and is left out
of `Sql.Expr.Qualified`. All that can be seen of a qualification after columns have been read is in
the texts of constructs that are not understood, which repeat their columns as they are written. The
outlines of both queries are therefore equal (`SelectStatement.outline_ofSql`), which is enough.
-/

namespace Pushdown

/-! ### Specification -/

/-- **A name by which the statement's own table goes**, in any case of letters. -/
def Scope.Names (scope : Scope) (name : Sql.Name) : Prop :=
  ∃ own ∈ scope, sameName own name.value = true

mutual
/-- **An expression with some of its columns qualified.** A text that stands for a construct may
change in any way, as it repeats the columns in it. -/
inductive Sql.Expr.Qualified (scope : Scope) : Sql.Expr → Sql.Expr → Prop where
  /-- A column as it was. -/
  | kept (parts : List Sql.Name) : Qualified scope (.column parts) (.column parts)
  /-- A column with a name of the table in front. If it is a path of several parts, it does not
  begin with one before. -/
  | qualified {own part : Sql.Name} {parts : List Sql.Name} (hown : scope.Names own)
    (hpart : parts ≠ [] → ¬ scope.Names part) :
    Qualified scope (.column (part :: parts)) (.column (own :: part :: parts))
  | number (digits : String) (long : Bool) :
    Qualified scope (.number digits long) (.number digits long)
  | quoted (value : String) : Qualified scope (.quoted value) (.quoted value)
  | boolean (value : Bool) : Qualified scope (.boolean value) (.boolean value)
  | null : Qualified scope .null .null
  | minus {e e' : Sql.Expr} (h : Qualified scope e e') : Qualified scope (.minus e) (.minus e')
  | not {e e' : Sql.Expr} (h : Qualified scope e e') : Qualified scope (.not e) (.not e')
  | nested {e e' : Sql.Expr} (h : Qualified scope e e') : Qualified scope (.nested e) (.nested e')
  | binary {l l' r r' : Sql.Expr} (op : Sql.BinaryOp) (hl : Qualified scope l l')
    (hr : Qualified scope r r') : Qualified scope (.binary l op r) (.binary l' op r')
  | inList {e e' : Sql.Expr} {items items' : List Sql.Expr} (negated : Bool)
    (he : Qualified scope e e') (hitems : QualifiedAll scope items items') :
    Qualified scope (.inList e items negated) (.inList e' items' negated)
  | like {e e' pattern pattern' : Sql.Expr} (negated : Bool) (he : Qualified scope e e')
    (hpattern : Qualified scope pattern pattern') :
    Qualified scope (.like e pattern negated) (.like e' pattern' negated)
  | array {items items' : List Sql.Expr} (named : Bool) (hitems : QualifiedAll scope items items') :
    Qualified scope (.array items named) (.array items' named)
  | call {args args' : List Sql.Expr} (name whole whole' : String)
    (hargs : QualifiedAll scope args args') :
    Qualified scope (.call name args whole) (.call name args' whole')
  | verbatim (text text' : String) : Qualified scope (.verbatim text) (.verbatim text')
/-- The same for every expression of a list. -/
inductive Sql.Expr.QualifiedAll (scope : Scope) : List Sql.Expr → List Sql.Expr → Prop where
  | nil : QualifiedAll scope [] []
  | cons {e e' : Sql.Expr} {es es' : List Sql.Expr} (he : Qualified scope e e')
    (hes : QualifiedAll scope es es') : QualifiedAll scope (e :: es) (e' :: es')
end

/-- The same for an item of a projection, whose own name stays. -/
inductive Sql.SelectItem.Qualified (scope : Scope) : Sql.SelectItem → Sql.SelectItem → Prop where
  | wildcard (whole : String) : Qualified scope (.wildcard whole) (.wildcard whole)
  | expr {e e' : Sql.Expr} (name : Option Sql.Name) (h : e.Qualified scope e') :
    Qualified scope (.expr e name) (.expr e' name)

/-- The same for a key of an order. -/
def Sql.OrderItem.Qualified (scope : Scope) (o o' : Sql.OrderItem) : Prop :=
  ∃ e, o.expr.Qualified scope e ∧ o' = { o with expr := e }

/-- The names of the table of a selection, none if it has none. -/
def Sql.Select.scope (s : Sql.Select) : Scope :=
  match onlyTable s.sources with
  | .ok (some table) => table.scope
  | _ => []

/-- **A query with some of its columns qualified**, in the projection, the filter and the order. All
else is as it was. -/
def Sql.Query.Qualified (q q' : Sql.Query) : Prop :=
  ∃ s items selection orderBy, q.body = .select s ∧
    List.Forall₂ (Sql.SelectItem.Qualified s.scope) s.projection items ∧
    Option.Rel (Sql.Expr.Qualified s.scope) s.selection selection ∧
    List.Forall₂ (Sql.OrderItem.Qualified s.scope) q.orderBy orderBy ∧
    q' = { q with
      body := .select { s with projection := items, selection := selection }
      orderBy := orderBy }

/-! ### Columns -/

variable {scope : Scope}

theorem sameName_iff {a b : String} :
    sameName a b = true ↔ a.toList.map Char.toLower = b.toList.map Char.toLower := by
  unfold sameName String.toLower
  rw [beq_iff_eq, ← String.toList_inj, String.toList_map, String.toList_map]

theorem Scope.any_iff_names (name : Sql.Name) :
    scope.any (sameName · name.value) = true ↔ scope.Names name := List.any_eq_true

/-- **A qualified column has the path of the column.** -/
theorem Scope.columnPath_qualified {own part : Sql.Name} {parts : List Sql.Name}
    (hown : scope.Names own) (hpart : parts ≠ [] → ¬ scope.Names part) :
    scope.columnPath (own :: part :: parts) = scope.columnPath (part :: parts) := by
  -- the first name is one of the table, so it is taken off
  have hqualified : scope.columnPath (own :: part :: parts) =
      ".".intercalate (part.value :: parts.map (·.value)) :=
    congrArg ".".intercalate (if_pos ((any_iff_names own).2 hown))
  rw [hqualified]
  cases parts with
  | nil => rfl
  | cons next parts =>
    -- the next is none, if anything follows it, so it stays
    have hnot : ¬ scope.any (sameName · part.value) = true := fun h =>
      hpart (List.cons_ne_nil next parts) ((any_iff_names part).1 h)
    exact (congrArg ".".intercalate (if_neg hnot)).symm

/-! ### Expressions -/

mutual
/-- **A qualified expression has the outline of the expression.** -/
theorem Expression.outline_ofSql {e e' : Sql.Expr} (h : e.Qualified scope e') :
    (ofSql scope e).outline = (ofSql scope e').outline := by
  cases h with
  | kept | number | quoted | boolean | null | verbatim => rfl
  | qualified hown hpart =>
    exact congrArg Expression.column (Scope.columnPath_qualified hown hpart).symm
  | minus hinner =>
    -- a minus before a number makes one number, and before anything else a text
    cases hinner with
    | number => rfl
    | kept | qualified | quoted | boolean | null | minus | not | nested | binary | inList | like
    | array | call | verbatim => rfl
  -- every other form keeps its parts in their places
  | not hinner => exact congrArg Expression.not (outline_ofSql hinner)
  | nested hinner => exact (outline_ofSql hinner :)
  | binary op hl hr =>
    exact congrArg₂ (Expression.binary · op ·) (outline_ofSql hl) (outline_ofSql hr)
  | inList negated he hitems =>
    exact congrArg₂ (Expression.inList · · negated) (outline_ofSql he) (outlines_ofSqls hitems)
  | like negated he hpattern =>
    exact congrArg₂ (Expression.like · · negated) (outline_ofSql he) (outline_ofSql hpattern)
  | @array items items' named hitems =>
    -- an array is one literal if all of its items are literals, and its outline shows no more
    have hliterals : literals? (ofSqls scope items) = literals? (ofSqls scope items') := by
      rw [← literals?_outlines, outlines_ofSqls hitems, literals?_outlines]
    rw [ofSql, ofSql, hliterals]
    cases literals? (ofSqls scope items') <;> rfl
  | call name whole whole' hargs => exact congrArg (Expression.call name) (outlines_ofSqls hargs)
theorem Expression.outlines_ofSqls {es es' : List Sql.Expr}
    (h : Sql.Expr.QualifiedAll scope es es') :
    outlines (ofSqls scope es) = outlines (ofSqls scope es') := by
  cases h with
  | nil => rfl
  | cons he hes => exact congrArg₂ List.cons (outline_ofSql he) (outlines_ofSqls hes)
end

theorem Expression.outline_ofSql? {e e' : Option Sql.Expr}
    (h : Option.Rel (Sql.Expr.Qualified scope) e e') :
    (e.map (ofSql scope)).map outline = (e'.map (ofSql scope)).map outline := by
  cases h with
  | none => rfl
  | some he => exact congrArg some (outline_ofSql he)

/-! ### Queries -/

theorem SelectTarget.outline_ofSql {i i' : Sql.SelectItem} (h : i.Qualified scope i') :
    (ofSql scope i).outline = (ofSql scope i').outline := by
  cases h with
  | wildcard => rfl
  | expr name he =>
    exact congrArg (SelectTarget.expr · (name.map (·.value))) (Expression.outline_ofSql he)

theorem SortItem.outline_ofSql {o o' : Sql.OrderItem} (h : o.Qualified scope o') :
    (ofSql scope o).outline = (ofSql scope o').outline := by
  obtain ⟨e, he, rfl⟩ := h
  exact congrArg (SortItem.mk · _) (Expression.outline_ofSql he)

/-- **A qualified query is read as a selection of the same outline**, or fails as the query does. -/
theorem SelectStatement.outline_ofSql {q q' : Sql.Query} (h : q.Qualified q') :
    (ofSql q).map outline = (ofSql q').map outline := by
  obtain ⟨s, items, selection, orderBy, hbody, hitems, hselection, horder, rfl⟩ := h
  -- the parts that may differ have the outlines of those that they stand for
  have htargets : (s.projection.map (SelectTarget.ofSql s.scope)).map SelectTarget.outline =
      (items.map (SelectTarget.ofSql s.scope)).map SelectTarget.outline := by
    rw [List.map_map, List.map_map]
    exact map_eq_map_of_forall₂ hitems fun _ _ h => SelectTarget.outline_ofSql h
  have hkeys : (q.orderBy.map (SortItem.ofSql s.scope)).map SortItem.outline =
      (orderBy.map (SortItem.ofSql s.scope)).map SortItem.outline := by
    rw [List.map_map, List.map_map]
    exact map_eq_map_of_forall₂ horder fun _ _ h => SortItem.outline_ofSql h
  unfold ofSql
  dsimp only
  rw [hbody]
  -- the same clauses are refused, and the table is the same
  refine map_refusal_congr (map_refusal_congr (map_refusal_congr (map_refusal_congr
    (map_refusal_congr (map_bind_congr fun table htable => map_bind_congr fun limit _ =>
      map_bind_congr fun offset _ => ?_)))))
  -- the names are those of the table, which are the same in both
  have hscope : (table.map TableRef.scope).getD [] = s.scope := by
    unfold Sql.Select.scope
    rw [htable]
    cases table <;> rfl
  refine congrArg Except.ok ?_
  unfold outline
  dsimp only
  rw [hscope, htargets, Expression.outline_ofSql? hselection, hkeys]

/-- What a text that holds one query asks for. -/
theorem Spec.read_of_readAll {text : String} {q : Sql.Query}
    (h : Sql.Statement.readAll text = .ok [.query q]) :
    Spec.read text = SelectStatement.ofSql q >>= Spec.ofSelect := by
  unfold Spec.read SelectStatement.read
  rw [Statement.read_of_readAll h]
  change ((SelectStatement.ofSql q).map Statement.select >>= _) >>= _ = _
  cases SelectStatement.ofSql q <;> rfl

/-- **A query asks for the same with its columns qualified.** If two texts hold queries that differ
by qualifiers of columns in the projection, the filter and the order, they come to the same spec, or
to failures of the same kind. -/
theorem Spec.read_qualified {text text' : String} {q q' : Sql.Query}
    (hread : Sql.Statement.readAll text = .ok [.query q])
    (hread' : Sql.Statement.readAll text' = .ok [.query q']) (h : q.Qualified q') :
    (Spec.read text).mapError QueryError.kind = (Spec.read text').mapError QueryError.kind := by
  have houtline (q : Sql.Query) :
      (SelectStatement.ofSql q >>= Spec.ofSelect).mapError QueryError.kind =
        ((SelectStatement.ofSql q).map SelectStatement.outline >>= Spec.ofSelect).mapError
          QueryError.kind := by
    cases SelectStatement.ofSql q with
    | error e => rfl
    | ok s => exact (Spec.ofSelect_outline s).symm
  -- what a selection comes to, its outline comes to, and the outlines of both are the same
  calc (Spec.read text).mapError QueryError.kind
      = (SelectStatement.ofSql q >>= Spec.ofSelect).mapError QueryError.kind := by
        rw [Spec.read_of_readAll hread]
    _ = ((SelectStatement.ofSql q).map SelectStatement.outline >>= Spec.ofSelect).mapError
          QueryError.kind := houtline q
    _ = ((SelectStatement.ofSql q').map SelectStatement.outline >>= Spec.ofSelect).mapError
          QueryError.kind := by rw [SelectStatement.outline_ofSql h]
    _ = (SelectStatement.ofSql q' >>= Spec.ofSelect).mapError QueryError.kind :=
        (houtline q').symm
    _ = (Spec.read text').mapError QueryError.kind := by rw [Spec.read_of_readAll hread']

/-- The languages of news. -/
def newsLanguages (lang kind : List Sql.Name) : Sql.Query :=
  .ofBody none <| .select
    { distinct := none, top := none, projection := [.expr (.column lang) none], into := none,
      sources := [⟨⟨.named [.bare "docs"], "docs", some ⟨.bare "d", []⟩, ""⟩, []⟩],
      lateralViews := [], prewhere := none,
      selection := some (.binary (.column kind) .eq (.quoted "news")), groupBy := none,
      distribution := [], having := none, windows := none, qualify := none, windowsFirst := false,
      hierarchy := none }

/-- The query without qualifiers. -/
def plainNews : Sql.Query := newsLanguages [.bare "meta", .bare "lang"] [.bare "kind"]

/-- The query with both columns qualified, by the table and by its other name. -/
def qualifiedNews : Sql.Query :=
  newsLanguages [.bare "Docs", .bare "meta", .bare "lang"] [.bare "D", .bare "kind"]

/-- **The languages of news are asked for either way.** -/
theorem Spec.read_qualified_news :
    Sql.Statement.readAll "SELECT meta.lang FROM docs d WHERE kind = 'news'" =
      .ok [.query plainNews] ∧
    Sql.Statement.readAll "SELECT Docs.meta.lang FROM docs d WHERE D.kind = 'news'" =
      .ok [.query qualifiedNews] ∧
    plainNews.Qualified qualifiedNews ∧
    Spec.read "SELECT meta.lang FROM docs d WHERE kind = 'news'" =
      .ok ⟨some "docs", .columns [.plain "meta.lang"], [⟨.eq, "kind", .scalar "news"⟩], [], none,
        none⟩ ∧
    (Spec.read "SELECT meta.lang FROM docs d WHERE kind = 'news'").mapError QueryError.kind =
      (Spec.read "SELECT Docs.meta.lang FROM docs d WHERE D.kind = 'news'").mapError
        QueryError.kind := by
  have htokens : Sql.tokens "SELECT meta.lang FROM docs d WHERE kind = 'news'".toList =
      .ok [.word (.bare "SELECT") "SELECT", .word (.bare "meta") "META", .symbol ".",
        .word (.bare "lang") "LANG", .word (.bare "FROM") "FROM", .word (.bare "docs") "DOCS",
        .word (.bare "d") "D", .word (.bare "WHERE") "WHERE", .word (.bare "kind") "KIND",
        .symbol "=", .quoted "news"] :=
    eq_ok_of_toOption (by decide +kernel)
  have htokens' : Sql.tokens
      "SELECT Docs.meta.lang FROM docs d WHERE D.kind = 'news'".toList =
      .ok [.word (.bare "SELECT") "SELECT", .word (.bare "Docs") "DOCS", .symbol ".",
        .word (.bare "meta") "META", .symbol ".", .word (.bare "lang") "LANG",
        .word (.bare "FROM") "FROM", .word (.bare "docs") "DOCS", .word (.bare "d") "D",
        .word (.bare "WHERE") "WHERE", .word (.bare "D") "D", .symbol ".",
        .word (.bare "kind") "KIND", .symbol "=", .quoted "news"] :=
    eq_ok_of_toOption (by decide +kernel)
  have hread : Sql.Statement.readAll "SELECT meta.lang FROM docs d WHERE kind = 'news'" =
      .ok [.query plainNews] :=
    Sql.Statement.readAll_of_tokens htokens (by with_unfolding_all rfl)
  have hread' : Sql.Statement.readAll "SELECT Docs.meta.lang FROM docs d WHERE D.kind = 'news'" =
      .ok [.query qualifiedNews] :=
    Sql.Statement.readAll_of_tokens htokens' (by with_unfolding_all rfl)
  -- the table goes by either name, whatever the case of the letters
  have hdocs : Scope.Names ["docs", "d"] (.bare "Docs") :=
    ⟨"docs", List.mem_cons_self, sameName_iff.2 rfl⟩
  have hd : Scope.Names ["docs", "d"] (.bare "D") :=
    ⟨"d", List.mem_cons_of_mem _ List.mem_cons_self, sameName_iff.2 rfl⟩
  have hmeta : ¬ Scope.Names ["docs", "d"] (.bare "meta") := fun h =>
    absurd ((Scope.any_iff_names _).2 h) (by decide +kernel)
  have hlang : Sql.Expr.Qualified ["docs", "d"] (.column [.bare "meta", .bare "lang"])
      (.column [.bare "Docs", .bare "meta", .bare "lang"]) :=
    .qualified hdocs fun _ => hmeta
  have hkind : Sql.Expr.Qualified ["docs", "d"] (.column [.bare "kind"])
      (.column [.bare "D", .bare "kind"]) :=
    .qualified hd fun hne => absurd rfl hne
  have hqualified : plainNews.Qualified qualifiedNews :=
    ⟨_, _, _, _, rfl, .cons (.expr none hlang) .nil, .some (.binary .eq hkind (.quoted "news")),
      .nil, rfl⟩
  -- the path without its qualifier is the path that is asked for
  have hpath : Scope.columnPath ["docs", "d"] [.bare "meta", .bare "lang"] = "meta.lang" := by
    decide +kernel
  have hselect : SelectStatement.ofSql plainNews = .ok ⟨[.expr (.column "meta.lang") none],
      some ⟨"docs", some "d"⟩, some (.binary (.column "kind") .eq (.literal "news")), [], none,
      none⟩ := by
    rw [← hpath]
    rfl
  refine ⟨hread, hread', hqualified, ?_, Spec.read_qualified hread hread' hqualified⟩
  rw [Spec.read_of_readAll hread, hselect]
  rfl

end Pushdown
