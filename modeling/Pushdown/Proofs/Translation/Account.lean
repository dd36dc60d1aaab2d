import Pushdown.Proofs.Translation.Partition
import Pushdown.Proofs.Translation.Rendering

/-!
# Translations account for every condition

A translation is what is left of a list of conditions: a search, a filter and the conditions to be
checked afterwards. `Translation.Accounts` says what it must be for no condition to be lost, without
saying how it is made. Every condition is in one of three places; those on the search column are the
search; those left over are handed on as they are; and the filter says all others, one part for each
and in their order, under operators that the dialect has for their columns.

The main statement, `translate_eq_ok_iff_accounts`, is an equivalence: a translation that is given
accounts for all conditions, and where there is one that does, it is given. So what the dialect
refuses can be read off as well: a second search, a value that an expression cannot hold, a
parameter that would be named twice.

`Partition.Divides` says what the conditions are divided into, and `translate_parameters_eq_ok_iff`
when the parts can be put together. What is added here is that every part says its condition,
whichever dialect it is in.
-/

namespace Pushdown

variable {cs : Conditions} {c : Condition}

/-! ### The places of a condition -/

namespace Rules

variable {α : Type} {rules : Rules α}

/-- **Every condition is in exactly one place.** -/
theorem places_perm (rules : Rules α) (cs : Conditions) :
    (cs.filter rules.searches ++ (cs.filter rules.pushes ++ cs.filter rules.leaves)).Perm cs := by
  have hpushes : cs.filter rules.pushes =
      (cs.filter fun c => !rules.searches c).filter rules.isPushable := by
    rw [List.filter_filter]
    exact List.filter_congr fun c _ => Bool.and_comm _ _
  have hleaves : cs.filter rules.leaves =
      (cs.filter fun c => !rules.searches c).filter fun c => !rules.isPushable c := by
    rw [List.filter_filter]
    exact List.filter_congr fun c _ => Bool.and_comm _ _
  rw [hpushes, hleaves]
  -- of the conditions that ask for no search, some are pushed and the others are left
  have hrest := List.filter_append_perm rules.isPushable (cs.filter fun c => !rules.searches c)
  exact (hrest.append_left _).trans (List.filter_append_perm rules.searches cs)

end Rules

/-! ### Specification -/

/-- **A parameter stands for an operand** by a text of its value, or of its values with separators
between them. -/
def ParameterField.StandsFor (f : ParameterField) : Operand → (text : String) → Prop
  | .scalar v, text => v.HasText text
  | .list vs, text => ∃ texts, List.Forall₂ Json.HasText vs texts ∧
      text = (f.separator.getD ",").intercalate texts

/-- **The entry of a condition**: the parameter for its column, and a text of its operand. -/
def ParameterDialect.IsEntry (d : ParameterDialect) (c : Condition) (entry : String × String) :
    Prop :=
  c.operand ≠ .scalar .null ∧ ∃ f, d.field? c.column = some f ∧
    entry.1 = f.parameter ∧ f.StandsFor c.operand entry.2

namespace Dialect

/-- The condition asks for a search. -/
def searches : Dialect → Condition → Bool
  | .expression d => d.rules.searches
  | .parameters d => d.rules.searches

/-- The condition is for the remote side to check. -/
def pushes : Dialect → Condition → Bool
  | .expression d => d.rules.pushes
  | .parameters d => d.rules.pushes

/-- The condition is left over. -/
def leaves : Dialect → Condition → Bool
  | .expression d => d.rules.leaves
  | .parameters d => d.rules.leaves

/-- **The operators that a dialect has for a column.** A list of values needs a separator. -/
def operators : Dialect → (column : String) → List Operator
  | .expression _, _ => Operator.all
  | .parameters d, column =>
    match d.field? column with
    | some f => f.operators.filter fun op => op != .isIn || f.separator.isSome
    | none => []

/-- **A filter says conditions**: one part for each of them, in their order, and nothing if there
are none. -/
def Says : Dialect → (pushed : Conditions) → Option TargetFilter → Prop
  | .expression d, pushed, filter =>
    (∀ c ∈ pushed, ∀ v ∈ c.operand.values, v.IsConstant) ∧
      filter = if pushed = [] then none
        else some (.expression (" and ".intercalate (pushed.map d.conditionText)))
  | .parameters d, pushed, filter =>
    ∃ entries, List.Forall₂ d.IsEntry pushed entries ∧ (entries.map Prod.fst).Nodup ∧
      filter = if pushed = [] then none else some (.parameters entries)

end Dialect

/-- **A translation accounts for all conditions.** -/
structure Translation.Accounts (d : Dialect) (cs : Conditions) (t : Translation) : Prop where
  /-- Every condition is in one place and no other. -/
  once : (cs.filter d.searches ++ (cs.filter d.pushes ++ cs.filter d.leaves)).Perm cs
  /-- The conditions on the search column are the search: at most one, an equality with a vector. -/
  similarity : SearchOf none (cs.filter d.searches) t.similarity
  /-- The conditions left over are all that are not for the remote side, in order. -/
  residual : t.residual = cs.filter d.leaves
  /-- The filter says all that are. -/
  pushed : d.Says (cs.filter d.pushes) t.pushed
  /-- Their operators are among those for their columns. -/
  operators : ∀ c ∈ cs.filter d.pushes, c.op ∈ d.operators c.column

/-! ### Boolean expressions -/

theorem ExpressionDialect.forall₂_render_iff {d : ExpressionDialect} {pushed : Conditions}
    {parts : List String} :
    List.Forall₂ (fun c part => d.rules.render c = .ok part) pushed parts ↔
      (∀ c ∈ pushed, ∀ v ∈ c.operand.values, v.IsConstant) ∧
        parts = pushed.map d.conditionText :=
  forall₂_eq_ok_iff fun _ _ _ => ExpressionDialect.render_eq_ok_iff

theorem translate_expression_iff_accounts {d : ExpressionDialect} {t : Translation} :
    translate cs (.expression d) = .ok t ↔ t.Accounts (.expression d) cs := by
  rw [translate_expression_eq_ok_iff]
  constructor
  · rintro ⟨⟨parts, residual, similarity⟩, ⟨hparts, hresidual, hsimilarity⟩, rfl⟩
    obtain ⟨hconstants, rfl⟩ := ExpressionDialect.forall₂_render_iff.1 hparts
    exact {
      once := d.rules.places_perm cs
      similarity := hsimilarity
      residual := hresidual
      pushed := ⟨hconstants, by simp [ExpressionDialect.conjoin, Dialect.pushes]⟩
      -- a boolean expression has all operators
      operators := fun c _ => c.op.mem_all }
  · rintro ⟨-, hsimilarity, hresidual, ⟨hconstants, hpushed⟩, -⟩
    refine ⟨⟨_, t.residual, t.similarity⟩,
      ⟨ExpressionDialect.forall₂_render_iff.2 ⟨hconstants, rfl⟩, hresidual, hsimilarity⟩, ?_⟩
    obtain ⟨pushed, residual, similarity⟩ := t
    obtain rfl : pushed = _ := hpushed
    simp [ExpressionDialect.conjoin, Dialect.pushes]

/-! ### Request parameters -/

namespace ParameterDialect

variable {d : ParameterDialect}

/-- The operators for a column are those that its parameter admits. -/
theorem mem_operators_iff {op : Operator} {column : String} :
    op ∈ (Dialect.parameters d).operators column ↔
      ∃ f, d.field? column = some f ∧ admits f op = true := by
  cases hfield : d.field? column with
  | none => simp [Dialect.operators, hfield]
  | some f => simp [Dialect.operators, hfield, admits]

theorem operand_eq_ok_iff {f : ParameterField} {column text : String} {o : Operand} :
    operand f column o = .ok text ↔ o ≠ .scalar .null ∧ f.StandsFor o text := by
  cases o with
  -- a null is refused, and any other value has one text
  | scalar v =>
    have htext : f.StandsFor (.scalar v) text ↔ text = v.bareText := Json.hasText_iff
    rw [htext]
    cases v <;> simp [operand, eq_comm]
  | list vs =>
    have htexts (texts : List String) :
        List.Forall₂ Json.HasText vs texts ↔ texts = vs.map Json.bareText := by
      rw [eq_comm, ← List.forall₂_eq_eq_eq, List.forall₂_map_left_iff]
      exact forall₂_congr_of_mem fun v _ text => Json.hasText_iff.trans eq_comm
    simp [operand, ParameterField.StandsFor, htexts, eq_comm]

/-- **A condition is rendered exactly under an operator for its column**, and as its entry. -/
theorem render_eq_ok_iff {entry : String × String} :
    d.render c = .ok entry ↔
      d.IsEntry c entry ∧ c.op ∈ (Dialect.parameters d).operators c.column := by
  rw [mem_operators_iff]
  unfold render IsEntry
  -- without a parameter for the column there is neither an entry nor an operator
  cases hfield : d.field? c.column with
  | none => simp
  | some f =>
    dsimp only
    cases hadmits : admits f c.op with
    | false => simp [hadmits]
    | true =>
      simp only [if_true, map_eq_ok_iff, operand_eq_ok_iff, Option.some.injEq, exists_eq_left',
        hadmits, and_true]
      constructor
      · rintro ⟨text, ⟨hnull, htext⟩, rfl⟩
        exact ⟨hnull, rfl, htext⟩
      · rintro ⟨hnull, hname, htext⟩
        exact ⟨entry.2, ⟨hnull, htext⟩, Prod.ext hname.symm rfl⟩

end ParameterDialect

/-- Conditions rendered one by one, and their entries and operators apart. -/
theorem ParameterDialect.forall₂_render_iff {d : ParameterDialect} {pushed : Conditions}
    {entries : List (String × String)} :
    List.Forall₂ (fun c entry => d.rules.render c = .ok entry) pushed entries ↔
      List.Forall₂ d.IsEntry pushed entries ∧
        ∀ c ∈ pushed, c.op ∈ (Dialect.parameters d).operators c.column := by
  have hrender (c : Condition) (entry : String × String) :
      d.rules.render c = .ok entry ↔
        c.op ∈ (Dialect.parameters d).operators c.column ∧ d.IsEntry c entry :=
    d.render_eq_ok_iff.trans and_comm
  simp only [hrender]
  rw [List.forall₂_and_left, and_comm]

theorem translate_parameters_iff_accounts {d : ParameterDialect} {t : Translation} :
    translate cs (.parameters d) = .ok t ↔ t.Accounts (.parameters d) cs := by
  -- parameters are there exactly if conditions are, so both sides ask the same for a filter
  have hempty {pushed : Conditions} {entries : List (String × String)}
      (h : List.Forall₂ d.IsEntry pushed entries) {filter : TargetFilter} :
      (if entries.isEmpty then none else some filter) =
        if pushed = [] then none else some filter := by
    cases h with
    | nil => rfl
    | cons _ _ => rfl
  rw [translate_parameters_eq_ok_iff]
  constructor
  · rintro ⟨⟨parts, residual, similarity⟩, ⟨hparts, hresidual, hsimilarity⟩, hnodup, rfl⟩
    obtain ⟨hentries, hoperators⟩ := ParameterDialect.forall₂_render_iff.1 hparts
    exact {
      once := d.rules.places_perm cs
      similarity := hsimilarity
      residual := hresidual
      pushed := ⟨parts, hentries, hnodup, hempty hentries⟩
      operators := hoperators }
  · rintro ⟨-, hsimilarity, hresidual, ⟨entries, hentries, hnodup, hpushed⟩, hoperators⟩
    have hparts := ParameterDialect.forall₂_render_iff.2 ⟨hentries, hoperators⟩
    refine ⟨⟨entries, t.residual, t.similarity⟩, ⟨hparts, hresidual, hsimilarity⟩, hnodup, ?_⟩
    rw [hempty hentries, ← hpushed]

/-! ### Translations -/

/-- A translation accounts for all conditions, whatever the dialect. -/
theorem Translation.accounts_of_translate {d : Dialect} {t : Translation}
    (h : translate cs d = .ok t) : t.Accounts d cs := by
  cases d with
  | expression d => exact translate_expression_iff_accounts.1 h
  | parameters d => exact translate_parameters_iff_accounts.1 h

/-- **A translation is given exactly where it accounts for all conditions.** -/
theorem translate_eq_ok_iff_accounts {d : Dialect} {t : Translation} :
    translate cs d = .ok t ↔ t.Accounts d cs := by
  -- one direction is known for every dialect
  refine ⟨Translation.accounts_of_translate, fun h => ?_⟩
  cases d with
  | expression d => exact translate_expression_iff_accounts.2 h
  | parameters d => exact translate_parameters_iff_accounts.2 h

/-! ### Instances -/

/-- A store of papers, which are searched by their summaries. -/
def papers : ExpressionDialect := ⟨"archive", "paper", "summary"⟩

/-- A search for papers, a condition under every operator, and one that is not on a paper. -/
def paperConditions : Conditions :=
  [⟨.eq, "summary", .scalar (.array [.ofInt 1, .number (.float ⟨false, 4591870180066957722⟩)])⟩,
    ⟨.eq, "paper.lang", .scalar "en"⟩, ⟨.notEq, "paper.state", .scalar "draft"⟩,
    ⟨.lt, "paper.pages", .scalar (.ofInt 20)⟩, ⟨.gt, "id", .scalar (.ofInt 3)⟩,
    ⟨.le, "paper.source.year", .scalar (.ofInt 2020)⟩, ⟨.gt, "paper.cited", .scalar (.ofInt (-1))⟩,
    ⟨.ge, "paper.open", .scalar (.bool true)⟩,
    ⟨.isIn, "paper.source.kind", .list ["news", .ofInt 7]⟩,
    ⟨.notIn, "paper.source.by.name", .list ["ann"]⟩, ⟨.like, "paper.title", .scalar "a%"⟩,
    ⟨.notLike, "paper.title", .scalar "_b"⟩]

/-- What they are translated to. One tenth is rounded to single precision. -/
def paperTranslation : Translation where
  pushed := some (.expression ("(lang == \"en\") and (state != \"draft\") and (pages < 20) and " ++
    "(source[\"year\"] <= 2020) and (cited > -1) and (open >= true) and " ++
    "(source[\"kind\"] in [\"news\", 7]) and (source[\"by\"][\"name\"] not in [\"ann\"]) and " ++
    "(title like \"a%\") and (title not like \"_b\")"))
  residual := [⟨.gt, "id", .scalar (.ofInt 3)⟩]
  similarity := some ⟨"summary", [⟨false, 4607182418800017408⟩, ⟨false, 4591870180174331904⟩]⟩

/-- An interface for videos by their identifiers, and for a number of them. -/
def videoParameters : ParameterDialect :=
  ⟨"videos", [⟨"video_id", "id", [.eq, .isIn], some ","⟩, ⟨"count", "maxResults", [.eq], none⟩]⟩

/-- Five of the comments of a user on two videos. -/
def videoConditions : Conditions :=
  [⟨.isIn, "video_id", .list ["v", .ofInt 7]⟩, ⟨.eq, "user_id", .scalar "u"⟩,
    ⟨.eq, "count", .scalar (.ofInt 5)⟩]

/-- Nothing of what is asked for is lost, whatever it is asked by: an operator, a vector as a list
or as its text, a list of values for a parameter. -/
theorem translate_eq_ok_iff_accounts_papers :
    (translate paperConditions (.expression papers) = .ok paperTranslation ∧
      paperTranslation.Accounts (.expression papers) paperConditions) ∧
    (∃ t, translate [⟨.eq, "summary", .scalar "[1, 0.1]"⟩] (.expression papers) = .ok t ∧
      t.similarity = paperTranslation.similarity ∧
      t.Accounts (.expression papers) [⟨.eq, "summary", .scalar "[1, 0.1]"⟩]) ∧
    ∃ t, translate videoConditions (.parameters videoParameters) = .ok t ∧
      t.pushed = some (.parameters [("id", "v,7"), ("maxResults", "5")]) ∧
      t.residual = [⟨.eq, "user_id", .scalar "u"⟩] ∧
      t.Accounts (.parameters videoParameters) videoConditions := by
  have hpapers : translate paperConditions (.expression papers) = .ok paperTranslation :=
    eq_ok_of_toOption (by decide +kernel)
  have hwritten : translate [⟨.eq, "summary", .scalar "[1, 0.1]"⟩] (.expression papers) =
      .ok ⟨none, [], paperTranslation.similarity⟩ :=
    eq_ok_of_toOption (by decide +kernel)
  have hvideos : translate videoConditions (.parameters videoParameters) =
      .ok ⟨some (.parameters [("id", "v,7"), ("maxResults", "5")]),
        [⟨.eq, "user_id", .scalar "u"⟩], none⟩ :=
    eq_ok_of_toOption (by decide +kernel)
  exact ⟨⟨hpapers, translate_eq_ok_iff_accounts.1 hpapers⟩,
    ⟨_, hwritten, rfl, translate_eq_ok_iff_accounts.1 hwritten⟩,
    ⟨_, hvideos, rfl, rfl, translate_eq_ok_iff_accounts.1 hvideos⟩⟩

end Pushdown
