import Pushdown.Proofs.Translation.Account
import Pushdown.Tables.News

/-!
# Nulls in what is sent

A comparison with null holds of no row, so a remote side that is sent a null as if it were a value
answers with other rows than those asked for. The two dialects keep nulls back in different ways.
An expression has no null at all: wherever one stands in a condition, there is no translation. A
parameter has none on its own; but a list is written out without a look at its items, and a null
among them becomes the four letters that a text would have been written by.

So it is not true that no condition with a null is sent. The main statement, `translate_nulls`, says
which are: lists, and lists in parameters alone (`list_of_null_mem`). And for these it says what is
sent. `ParameterDialect.spelled` puts the text `null` in the place of every null in the list of a
condition that has a parameter, and no translation can tell the difference, neither by what it gives
nor by why it fails.

The second half does not look at what a translation is. It follows from the division of conditions,
which knows a condition for the remote side by its column and by what it is rendered to
(`partitionConditions_map`).
-/

namespace Pushdown

variable {cs : Conditions} {c : Condition} {d : Dialect} {t : Translation}

/-! ### Which conditions with a null are sent -/

/-- **A condition that compares with a null**, on its own or among others. -/
def Condition.comparesWithNull (c : Condition) : Prop := .null ∈ c.operand.values

/-- **A condition with a null is sent only as a list in a parameter.** -/
theorem list_of_null_mem (h : translate cs d = .ok t) (hc : c ∈ cs) (hpush : d.pushes c = true)
    (hnull : c.comparesWithNull) :
    ∃ parameters values, d = .parameters parameters ∧ c.operand = .list values := by
  have hmem : c ∈ cs.filter d.pushes := List.mem_filter.2 ⟨hc, hpush⟩
  have hsays : d.Says (cs.filter d.pushes) t.pushed := (Translation.accounts_of_translate h).pushed
  cases d with
  | expression e =>
    -- every value of a condition that was sent can stand in an expression, and a null cannot
    obtain ⟨hconstants, -⟩ := hsays
    exact absurd rfl (hconstants c hmem .null hnull).1
  | parameters p =>
    obtain ⟨entries, hentries, -⟩ := hsays
    obtain ⟨entry, -, hvalue, -⟩ := exists_of_mem_left hentries hmem
    unfold Condition.comparesWithNull at hnull
    -- a null on its own would have no entry
    cases hoperand : c.operand with
    | list values => exact ⟨p, values, rfl, rfl⟩
    | scalar v =>
      rw [hoperand] at hnull
      obtain rfl : Json.null = v := List.mem_singleton.1 hnull
      exact absurd hoperand hvalue

/-! ### What they are sent as -/

/-- The text of a null in the place of a null. -/
def Json.spelled : Json → Json
  | .null => .string "null"
  | v => v

theorem Json.bareText_spelled (v : Json) : v.spelled.bareText = v.bareText := by
  cases v with
  -- the text of a null is the same four letters
  | null => decide
  | bool | number | string | array | object => rfl

/-- Texts in the place of the nulls of a list. -/
def Operand.spelled : Operand → Operand
  | .scalar v => .scalar v
  | .list vs => .list (vs.map Json.spelled)

namespace ParameterDialect

variable {p : ParameterDialect}

/-- **A condition that has a parameter, with texts in the place of the nulls in its list.** -/
def spelled (p : ParameterDialect) (c : Condition) : Condition :=
  if p.isPushable c then { c with operand := c.operand.spelled } else c

theorem column_spelled (c : Condition) : (p.spelled c).column = c.column := by
  unfold spelled
  split <;> rfl

theorem isPushable_spelled (c : Condition) : p.isPushable (p.spelled c) = p.isPushable c := by
  unfold isPushable
  rw [column_spelled]

theorem operand_spelled (f : ParameterField) (column : String) (o : Operand) :
    operand f column o.spelled = operand f column o := by
  cases o with
  | scalar v => rfl
  | list vs =>
    have htexts : (vs.map Json.spelled).map Json.bareText = vs.map Json.bareText := by
      rw [List.map_map]
      exact List.map_congr_left fun v _ => v.bareText_spelled
    -- the items are looked at by their texts alone
    show Except.ok _ = Except.ok _
    rw [htexts]

/-- **A null in a list is rendered as its text would be.** -/
theorem render_spelled (c : Condition) : p.render (p.spelled c) = p.render c := by
  -- only a condition that has a parameter is changed, and only in its operand
  cases hpush : p.isPushable c with
  | false =>
    have hsame : p.spelled c = c := if_neg (by rw [hpush]; exact Bool.false_ne_true)
    rw [hsame]
  | true =>
    have hspelled : p.spelled c = { c with operand := c.operand.spelled } := if_pos hpush
    rw [hspelled]
    unfold render
    dsimp only
    cases p.field? c.column with
    | none => rfl
    | some f =>
      dsimp only
      rw [operand_spelled]
      rfl

end ParameterDialect

/-- **A division does not look into conditions for the remote side**: others that stand on the same
columns and are rendered alike are divided alike. -/
theorem partitionConditions_map {α : Type} {rules : Rules α} {f : Condition → Condition}
    (hcolumn : ∀ c, (f c).column = c.column)
    (hpush : ∀ c, rules.isPushable (f c) = rules.isPushable c)
    (hrender : ∀ c, rules.render (f c) = rules.render c)
    (hsame : ∀ c, rules.pushes c = false → f c = c) (found : Option Similarity)
    (cs : Conditions) :
    partitionConditions rules found (cs.map f) = partitionConditions rules found cs := by
  induction cs generalizing found with
  | nil => rfl
  | cons c cs ih =>
    rw [List.map_cons]
    cases hpushes : rules.pushes c with
    | false =>
      -- a condition that stays here stays as it is
      rw [hsame c hpushes]
      unfold partitionConditions
      simp only [ih]
    | true =>
      -- no search is asked for, before or after the change
      obtain ⟨hsearch, hpushable⟩ := Bool.and_eq_true_iff.1 hpushes
      have hnot : ¬ rules.similarityColumn = some c.column := by
        intro hcolumn
        simp [Rules.searches, hcolumn] at hsearch
      unfold partitionConditions
      rw [hcolumn, if_neg hnot, if_neg hnot, hpush, if_pos hpushable, if_pos hpushable, hrender]
      simp only [ih]

/-- **A null in the list of a parameter is sent as its text would be.** -/
theorem translate_spelled (p : ParameterDialect) (cs : Conditions) :
    translate (cs.map p.spelled) (.parameters p) = translate cs (.parameters p) := by
  have hsame (c : Condition) (hpush : p.rules.pushes c = false) : p.spelled c = c := by
    -- no column asks for a search here, so a condition that is not sent has no parameter
    have hnone : p.isPushable c = false := by
      simpa [Rules.pushes, Rules.searches, ParameterDialect.rules] using hpush
    exact if_neg (by rw [hnone]; exact Bool.false_ne_true)
  have hparts : partitionConditions p.rules none (cs.map p.spelled) =
      partitionConditions p.rules none cs :=
    partitionConditions_map p.column_spelled p.isPushable_spelled p.render_spelled hsame none cs
  unfold translate
  dsimp only
  rw [hparts]

/-- **Nulls in what is sent.** A condition with a null that is for the remote side has a translation
only if it is a list in a parameter; and there a null is no reason to refuse anything, but is sent
as the text that it is written by. -/
theorem translate_nulls (cs : Conditions) (d : Dialect) :
    (∀ t, translate cs d = .ok t → ∀ c ∈ cs, d.pushes c = true → c.comparesWithNull →
      ∃ parameters values, d = .parameters parameters ∧ c.operand = .list values) ∧
    ∀ parameters, d = .parameters parameters →
      translate (cs.map parameters.spelled) d = translate cs d := by
  constructor
  · intro t h c hc hpush hnull
    exact list_of_null_mem h hc hpush hnull
  · rintro parameters rfl
    exact translate_spelled parameters cs

/-- Posts of one kind about some currencies, one of which is left open. -/
def openCurrencies : Conditions :=
  [⟨.eq, "kind", .scalar "news"⟩, ⟨.isIn, "currency", .list ["BTC", .null]⟩]

/-- The list is the only place of the null, and a currency of that name would be asked for alike. -/
theorem translate_nulls_openCurrencies :
    ∃ t, translate openCurrencies (.parameters News.dialect) = .ok t ∧
      (∃ c ∈ openCurrencies, (Dialect.parameters News.dialect).pushes c = true ∧
        c.comparesWithNull ∧ ∃ values, c.operand = .list values) ∧
      translate [⟨.eq, "kind", .scalar "news"⟩, ⟨.isIn, "currency", .list ["BTC", "null"]⟩]
        (.parameters News.dialect) = .ok t := by
  -- the null stands in a list, and in no other place
  have htranslate : translate openCurrencies (.parameters News.dialect) = .ok _ := rfl
  have hmem : ⟨.isIn, "currency", .list ["BTC", .null]⟩ ∈ openCurrencies :=
    List.mem_cons_of_mem _ List.mem_cons_self
  have hnull : (⟨.isIn, "currency", .list ["BTC", .null]⟩ : Condition).comparesWithNull :=
    List.mem_cons_of_mem _ List.mem_cons_self
  obtain ⟨hlist, hspelled⟩ := translate_nulls openCurrencies (.parameters News.dialect)
  obtain ⟨-, values, -, hvalues⟩ := hlist _ htranslate _ hmem rfl hnull
  exact ⟨_, htranslate, ⟨_, hmem, rfl, hnull, values, hvalues⟩,
    (hspelled News.dialect rfl).trans htranslate⟩

/-- **A null among currencies is sent**, as four letters. -/
theorem null_sent_as_currency :
    ∃ t, translate [⟨.isIn, "currency", .list ["BTC", .null]⟩] (.parameters News.dialect) = .ok t ∧
      (Dialect.parameters News.dialect).pushes ⟨.isIn, "currency", .list ["BTC", .null]⟩ = true ∧
      (⟨.isIn, "currency", .list ["BTC", .null]⟩ : Condition).comparesWithNull ∧
      t.pushed = some (.parameters [("currencies", "BTC,null")]) :=
  ⟨_, rfl, rfl, List.mem_cons_of_mem _ List.mem_cons_self, rfl⟩

end Pushdown
