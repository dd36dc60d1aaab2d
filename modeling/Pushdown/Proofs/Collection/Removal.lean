import Pushdown.Proofs.Store.Changes
import Pushdown.Proofs.Translation.Partition
import Pushdown.Proofs.Translation.Rendering
import Pushdown.Tables.Collection

/-!
# Removals are no wider than their conditions

A removal cannot be checked afterwards, so a condition that got lost on the way to the store would
remove entities that were to stay. The main statement, `delete_calls`, is about all that the store
is asked for: if the conditions are `Removable`, one removal by the conjunction of all of them, each
as it is written in an expression, over one connection; otherwise nothing at all, not even a
connection.

The argument is about the filter alone. `removalFilter` succeeds only if nothing was left over and
no search was asked for. By the division of conditions (`Partition.Divides`) every condition is then
among those rendered (`divides_pushed_iff`), and the rendered texts are those of the conditions, one
by one. A condition on the identifier needs no case of its own: it is on no place below the
metadata, so it is not removable, and which of the two refusals comes first does not matter.
-/

namespace Pushdown.Collection

variable {σ : Type} {cs : Conditions} {c : Condition}

/-! ### Specification -/

/-- **A condition that a removal can carry out**: on a place below the metadata, with values that an
expression can hold. -/
def Expressible (c : Condition) : Prop :=
  (∃ field, field ≠ "" ∧ c.column = "metadata." ++ field) ∧ ∀ v ∈ c.operand.values, v.IsConstant

/-- **Conditions that entities can be removed by**: at least one, and all of them can be carried
out. -/
def Removable (cs : Conditions) : Prop := cs ≠ [] ∧ ∀ c ∈ cs, Expressible c

/-- **The filter that says all conditions**, each in parentheses. -/
def removalText (cs : Conditions) : String :=
  " and ".intercalate (cs.map dialect.conditionText)

/-! ### The filter -/

/-- A path below the metadata starts as the metadata does. -/
theorem metadata_append_ne {column field : String} (h : column.toList.head? ≠ some 'm') :
    "metadata." ++ field ≠ column := by
  rintro rfl
  rw [String.toList_append] at h
  exact h rfl

/-- The conditions for the store are those on a place below the metadata. -/
theorem pushes_iff : dialect.rules.pushes c = true ↔
    ∃ field, field ≠ "" ∧ c.column = "metadata." ++ field := by
  have hpushable : dialect.rules.isPushable c = true ↔
      ∃ field, field ≠ "" ∧ c.column = "metadata." ++ field :=
    ExpressionDialect.isPushable_iff
  unfold Rules.pushes
  -- a vector to search for is no condition on the metadata, so it need not be excluded here
  rw [Bool.and_eq_true, hpushable, and_iff_right_iff_imp]
  rintro ⟨field, -, hfield⟩
  have hsearch : "metadata." ++ field ≠ "search_vector" := metadata_append_ne (by decide)
  rw [← hfield] at hsearch
  simp [Rules.searches, ExpressionDialect.rules, dialect, hsearch.symm]

/-- A filter is what a translation of conditions without the identifier pushes, if that is all there
is in it. -/
theorem removalFilter_steps {filter : String} : removalFilter cs = .ok filter ↔
    cs.mentions "id" = false ∧ ∃ t, translate cs (.expression dialect) = .ok t ∧
      (t.residual = [] ∧ t.similarity = none) ∧
      t.pushed.bind TargetFilter.expression? = some filter := by
  unfold removalFilter
  cases hid : cs.mentions "id" with
  | true =>
    -- a condition on the identifier is the first refusal
    rw [if_pos rfl]
    exact iff_of_false nofun (by simp)
  | false =>
    rw [if_neg (by simp), bind_eq_ok_iff, eq_self, true_and]
    refine exists_congr fun t => and_congr_right fun _ => ?_
    -- the second refusal: something is left over, or a search is asked for
    by_cases hall : t.residual = [] ∧ t.similarity = none
    · rw [if_neg (by simp [hall]), and_iff_right hall]
      cases t.pushed.bind TargetFilter.expression? with
      | none => exact iff_of_false nofun nofun
      | some text => simp [pure, Except.pure]
    · rw [if_pos (by simpa [← Option.isSome_iff_ne_none, imp_iff_not_or] using hall)]
      exact iff_of_false nofun fun h => hall h.1

/-- The conditions of a removal are all for the store, and the store's form of them is their text.
-/
theorem divides_removable_iff {parts : List String} :
    Partition.Divides dialect.rules none cs ⟨parts, [], none⟩ ↔
      (∀ c ∈ cs, Expressible c) ∧ parts = cs.map dialect.conditionText := by
  -- an expression says a condition as soon as it can hold its values
  have hrender (c : Condition) (text : String) : dialect.rules.render c = .ok text ↔
      (∀ v ∈ c.operand.values, v.IsConstant) ∧ text = dialect.conditionText c :=
    ExpressionDialect.render_eq_ok_iff
  rw [divides_pushed_iff, forall₂_eq_ok_iff fun c _ => hrender c, ← and_assoc, ← forall₂_and]
  simp only [pushes_iff, Expressible]

/-- **The filter of removable conditions says all of them**, and other conditions have none. -/
theorem removalFilter_eq_ok_iff {filter : String} :
    removalFilter cs = .ok filter ↔ Removable cs ∧ filter = removalText cs := by
  rw [removalFilter_steps]
  constructor
  · -- the filter came from a division with nothing left over, so all conditions are in it
    rintro ⟨-, t, ht, ⟨hresidual, hsimilarity⟩, hfilter⟩
    obtain ⟨⟨parts, residual, similarity⟩, hpart, rfl⟩ := translate_expression_eq_ok_iff.1 ht
    obtain rfl : residual = [] := hresidual
    obtain rfl : similarity = none := hsimilarity
    obtain ⟨hcs, rfl⟩ := divides_removable_iff.1 hpart
    -- without conditions there is nothing to join, and so no filter
    cases cs with
    | nil => exact absurd hfilter nofun
    | cons c cs => exact ⟨⟨nofun, hcs⟩, (Option.some.inj hfilter).symm⟩
  · rintro ⟨⟨hne, hcs⟩, rfl⟩
    -- what is below the metadata is not the identifier, so the first refusal does not apply
    have hid : cs.mentions "id" = false := by
      rw [Conditions.mentions_eq_false_iff]
      refine List.filter_eq_nil_iff.2 fun c hc => ?_
      obtain ⟨⟨field, -, hfield⟩, -⟩ := hcs c hc
      rw [hfield, beq_iff_eq]
      exact metadata_append_ne (by decide)
    refine ⟨hid, _, translate_expression_eq_ok_iff.2 ⟨_, divides_removable_iff.2 ⟨hcs, rfl⟩, rfl⟩,
      ⟨rfl, rfl⟩, ?_⟩
    dsimp only
    rw [if_neg (by simpa using hne)]
    rfl

/-! ### Calls -/

variable (store : Store σ) (name : String) (s : σ)

/-- A removal that has a filter is one call over a connection. -/
theorem delete_of_ok {filter : String} (h : removalFilter cs = .ok filter) :
    delete store name cs = store.withConnection (Store.call (store.delete name filter)) := by
  unfold delete
  rw [h]
  rfl

/-- A removal that has no filter comes to nothing. -/
theorem delete_run_of_error {e : QueryError} (h : removalFilter cs = .error e) :
    (delete store name cs).run.run s = (.error e, s) := by
  unfold delete
  rw [h]
  rfl

/-- **A removal asks the store for all its conditions or for nothing.** Writing down what the store
is asked for changes neither outcome nor state; removable conditions are one removal by all of them,
over one connection; with other conditions the removal fails and the store is asked for nothing. -/
theorem delete_calls (cs : Conditions) (log : List Call) :
    let after := (delete store.recording name cs).run.run (s, log)
    (after.1, after.2.1) = (delete store name cs).run.run s ∧
    (Removable cs → after.2.2 = log ++ match (store.connect.run.run s).1 with
      | .ok _ => [.connect, .delete name (removalText cs), .disconnect]
      | .error _ => [.connect]) ∧
    (¬ Removable cs → ∃ e, after = (.error e, s, log)) := by
  cases hfilter : removalFilter cs with
  | ok filter =>
    obtain ⟨hcs, rfl⟩ := removalFilter_eq_ok_iff.1 hfilter
    -- the record is that of a single call over a connection
    have hafter := store.withConnection_recording (.delete name (removalText cs))
      (store.delete name (removalText cs)) s log
    rw [delete_of_ok store.recording name hfilter, delete_of_ok store name hfilter]
    refine ⟨?_, fun _ => ?_, fun hnot => absurd hcs hnot⟩
    · exact congrArg (fun after => (after.1, after.2.1)) hafter
    · exact congrArg (fun after => after.2.2) hafter
  | error e =>
    -- a filter that cannot be had is asked for before there is a connection
    have hcs : ¬ Removable cs := fun hcs =>
      absurd (hfilter.symm.trans (removalFilter_eq_ok_iff.2 ⟨hcs, rfl⟩)) nofun
    rw [delete_run_of_error store.recording name (s, log) hfilter,
      delete_run_of_error store name s hfilter]
    exact ⟨rfl, fun h => absurd h hcs, fun _ => ⟨e, rfl⟩⟩

/-! ### An instance -/

/-- One condition under every operator. -/
def everyOperator : Conditions :=
  [⟨.eq, "metadata.lang", .scalar "en"⟩, ⟨.notEq, "metadata.state", .scalar "draft"⟩,
    ⟨.lt, "metadata.pages", .scalar (.ofInt 20)⟩, ⟨.le, "metadata.cited", .scalar (.ofInt (-1))⟩,
    ⟨.gt, "metadata.score", .scalar (.number (.float ⟨false, 4602678819172646912⟩))⟩,
    ⟨.ge, "metadata.source.year", .scalar (.ofInt 2020)⟩,
    ⟨.isIn, "metadata.source.kind", .list ["news", .bool true]⟩,
    ⟨.notIn, "metadata.source.by.name", .list ["ann"]⟩, ⟨.like, "metadata.title", .scalar "a%"⟩,
    ⟨.notLike, "metadata.title", .scalar "_\"b"⟩]

/-- How a store is told them. -/
def everyOperatorText : String :=
  "(lang == \"en\") and (state != \"draft\") and (pages < 20) and (cited <= -1) and " ++
    "(score > 0.5) and (source[\"year\"] >= 2020) and (source[\"kind\"] in [\"news\", true]) and " ++
    "(source[\"by\"][\"name\"] not in [\"ann\"]) and (title like \"a%\") and " ++
    "(title not like \"_\\\"b\")"

/-- Documents are removed by all conditions, if there is a connection, and by none if one of them
asks for an identifier. -/
theorem delete_calls_everyOperator :
    Removable everyOperator ∧
    ((delete MemoryStore.plain.recording "docs" everyOperator).run.run (.empty, [])).2.2 =
      [.connect, .delete "docs" everyOperatorText, .disconnect] ∧
    ((delete MemoryStore.plain.recording "docs" everyOperator).run.run
      ({ MemoryStore.empty with refusal := some "down" }, [])).2.2 = [.connect] ∧
    ¬ Removable (⟨.eq, "id", .scalar (.ofInt 1)⟩ :: everyOperator) ∧
    ∃ e, (delete MemoryStore.plain.recording "docs"
      (⟨.eq, "id", .scalar (.ofInt 1)⟩ :: everyOperator)).run.run (.empty, []) =
        (.error e, .empty, []) := by
  have hfilter : removalFilter everyOperator = .ok everyOperatorText :=
    eq_ok_of_toOption (by decide +kernel)
  obtain ⟨hremovable, htext⟩ := removalFilter_eq_ok_iff.1 hfilter
  have hmixed : ¬ Removable (⟨.eq, "id", .scalar (.ofInt 1)⟩ :: everyOperator) := by
    rintro ⟨-, hall⟩
    obtain ⟨⟨field, -, hfield⟩, -⟩ := hall _ List.mem_cons_self
    exact metadata_append_ne (by decide) hfield.symm
  refine ⟨hremovable, ?_, ?_, hmixed, ?_⟩
  · rw [(delete_calls MemoryStore.plain "docs" .empty everyOperator []).2.1 hremovable, htext]
    rfl
  · rw [(delete_calls MemoryStore.plain "docs" { MemoryStore.empty with refusal := some "down" }
      everyOperator []).2.1 hremovable]
    rfl
  · exact (delete_calls MemoryStore.plain "docs" .empty _ []).2.2 hmixed

end Pushdown.Collection
