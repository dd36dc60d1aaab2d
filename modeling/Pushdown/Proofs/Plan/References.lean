import Pushdown.Proofs.Plan.Answer
import Pushdown.Proofs.Registry.Handover
import Pushdown.Proofs.Rows.Unification
import Pushdown.Proofs.Translation.Account
import Pushdown.Remote.Pipeline

/-!
# What the references of a plan stand for

A plan reads rows in its projection, in the conditions left over and in its order. A path read there
should be one that rows carry: a declared column that is not for conditions only, or a place inside
a document that is such a column (`Schema.Carries`). Everything else should be refused before the
remote side is asked.

It nearly is. Two checks are made of every path that rows have to carry, and they do not look at the
same thing. A path is resolved through its head, but only a path that is itself a declared name can
be found to be for conditions only. So a place inside a document that is for conditions only passes
both. The schema conceals it (`Schema.Conceals`): the path means something, but no row has it.

The main statement, `plan_references`, is that nothing else slips through. What a plan reads is
carried by rows exactly if it is not concealed, and a spec that would read a path which is neither
has no plan, so that the remote side is never asked. The first half is about one path at a time
(`carries_or_conceals`); for the second, the paths that a plan reads are those that its spec asks
for (`Planned.reads_eq`), which is known without the plan.

A concealed place is missing in every row (`Shape.lookup_of_conceals`), so it is null in an answer,
and a condition on it that is left over keeps no row (`Pipeline.rows_of_conceals`).
-/

namespace Pushdown

variable {spec : Spec} {schema : Schema} {capabilities : Capabilities} {dialect : Option Dialect}
  {p : Plan} {path : String}

namespace Schema

/-! ### What rows carry -/

/-- **Rows carry a path**: it is a column of theirs, or it leads into one that holds documents. -/
def Carries (s : Schema) (path : String) : Prop :=
  path ∈ s.outputColumns ∨
    ∃ head ∈ pathHead? path, Column.output head .json ∈ s.columns

/-- **A path is concealed**: it leads into a document that is for conditions only. -/
def Conceals (s : Schema) (path : String) : Prop :=
  s.column? path = none ∧ ∃ head ∈ pathHead? path,
    s.column? head = some (.condition head .json) ∧ Column.output head .json ∉ s.columns

instance (s : Schema) (path : String) : Decidable (s.Carries path) := by
  unfold Carries
  infer_instance

instance (s : Schema) (path : String) : Decidable (s.Conceals path) := by
  unfold Conceals
  infer_instance

variable {s : Schema} {name : String} {c : Column}

/-- The column found under a name is declared under this name. -/
theorem mem_of_column? (h : s.column? name = some c) : c ∈ s.columns ∧ c.name = name := by
  have hname := List.find?_some h
  exact ⟨List.mem_of_find?_eq_some h, beq_iff_eq.1 hname⟩

theorem mem_outputColumns (hc : c ∈ s.columns) (hshown : c.filterOnly = false) :
    c.name ∈ s.outputColumns := by
  -- such a column passes the filter that `outputColumns` begins with
  have hkept : c ∈ s.columns.filter fun c => !c.filterOnly :=
    List.mem_filter.2 ⟨hc, by rw [hshown]; rfl⟩
  exact List.mem_map_of_mem hkept

/-- **Rows carry nothing that is concealed.** -/
theorem Conceals.not_carries (h : s.Conceals path) : ¬ s.Carries path := by
  obtain ⟨hnone, head, hhead, -, hnot⟩ := h
  rintro (hcolumn | ⟨head', hhead', hmem⟩)
  · -- no column was found under the path
    exact column?_ne_none hcolumn hnone
  · -- a path has one head, and no document under it is one that rows carry
    obtain rfl := Option.mem_unique hhead hhead'
    exact hnot hmem

/-- **A path is resolved** as a declared name, or through the document that it leads into. -/
theorem resolve_cases (h : (s.resolve path).isSome) :
    (∃ c, s.column? path = some c) ∨
      s.column? path = none ∧ ∃ head ∈ pathHead? path, ∃ c, s.column? head = some c ∧
        c.type = .json := by
  unfold resolve at h
  cases hcolumn : s.column? path with
  | some c => exact .inl ⟨c, rfl⟩
  | none =>
    rw [hcolumn] at h
    -- the head has to be there, to be declared, and to hold documents
    cases hhead : pathHead? path with
    | none => rw [hhead] at h; exact absurd h nofun
    | some head =>
      rw [hhead, Option.bind_some] at h
      cases hfound : s.column? head with
      | none => rw [hfound] at h; exact absurd h nofun
      | some c =>
        have htype : c.type = .json := by
          by_contra hnot
          rw [hfound] at h
          simp [hnot] at h
        exact .inr ⟨rfl, head, rfl, c, hfound, htype⟩

/-- **A path that passes both checks is carried by rows or concealed.** -/
theorem carries_or_conceals (hresolve : (s.resolve path).isSome)
    (hshown : s.isFilterOnly path = false) : s.Carries path ∨ s.Conceals path := by
  rcases resolve_cases hresolve with ⟨c, hcolumn⟩ | ⟨hnone, head, hhead, c, hfound, htype⟩
  · -- the path is a name, and the second check has seen its column
    obtain ⟨hc, rfl⟩ := mem_of_column? hcolumn
    unfold isFilterOnly at hshown
    rw [hcolumn] at hshown
    exact .inl (.inl (mem_outputColumns hc hshown))
  · -- the path leads into a column that the second check has not seen
    obtain ⟨hc, rfl⟩ := mem_of_column? hfound
    obtain ⟨name, type, filterOnly⟩ := c
    obtain rfl : type = .json := htype
    by_cases hmem : Column.output name .json ∈ s.columns
    · exact .inl (.inr ⟨name, hhead, hmem⟩)
    · cases filterOnly with
      | false => exact absurd hc hmem
      | true => exact .inr ⟨hnone, name, hhead, hfound, hmem⟩

end Schema

/-! ### What a plan reads -/

/-- **The paths that are read in rows**: by the remote side to sort, and by what is done after. -/
def Plan.reads (p : Plan) : List String :=
  p.output.map (·.path) ++ p.residual.map (·.column) ++
    (p.remote.sort ++ p.localSort).map (·.column)

/-- The conditions that are left when the remote side has taken its own. -/
def Spec.leftOver (spec : Spec) (capabilities : Capabilities) : Option Dialect → Conditions
  | some d => if capabilities.filter then spec.conditions.filter d.leaves else spec.conditions
  | none => spec.conditions

/-- **The paths that a spec asks to be read in rows**, whether there is a plan for it or not. -/
def Spec.reads (spec : Spec) (schema : Schema) (capabilities : Capabilities)
    (dialect : Option Dialect) : List String :=
  (match spec.projection with
    | .all => schema.outputColumns
    | .columns cs => cs.map (·.path)) ++
  (spec.leftOver capabilities dialect).map (·.column) ++ spec.orderBy.map (·.column)

theorem requireOutput_eq_ok_iff {place : ColumnUse} : requireOutput schema path place = .ok () ↔
    (schema.resolve path).isSome ∧ schema.isFilterOnly path = false := by
  unfold requireOutput Schema.require
  cases schema.resolve path with
  | none => exact iff_of_false nofun nofun
  | some type =>
    cases hshown : schema.isFilterOnly path with
    | true => exact iff_of_false nofun nofun
    | false => exact iff_of_true rfl ⟨rfl, rfl⟩

theorem checkResidual_eq_ok_iff {residual : Conditions} : checkResidual schema residual = .ok () ↔
    ∀ c ∈ residual, schema.isFilterOnly c.column = false := by
  unfold checkResidual
  cases hfind : residual.find? fun c => schema.isFilterOnly c.column with
  | none =>
    refine iff_of_true rfl fun c hc => ?_
    exact Bool.eq_false_iff.2 (List.find?_eq_none.1 hfind c hc)
  | some c =>
    refine iff_of_false nofun fun h => ?_
    have hc := h c (List.mem_of_find?_eq_some hfind)
    exact absurd (List.find?_some hfind) (by rw [hc]; exact Bool.false_ne_true)

namespace Planned

/-- **What a plan leaves over is known before.** -/
theorem residual_eq_leftOver (hp : Planned spec schema capabilities dialect p) :
    p.residual = spec.leftOver capabilities dialect := by
  have hdivided := hp.divided
  unfold divideConditions at hdivided
  unfold Spec.leftOver
  cases dialect with
  -- without a translation all conditions stay, and with one those that it leaves
  | none => exact (congrArg Translation.residual (Except.ok.inj hdivided)).symm
  | some d =>
    dsimp only at hdivided ⊢
    cases hfilter : capabilities.filter with
    | true =>
      rw [hfilter, if_pos rfl] at hdivided
      exact (Translation.accounts_of_translate hdivided).residual
    | false =>
      rw [hfilter, if_neg Bool.false_ne_true] at hdivided
      exact (congrArg Translation.residual (Except.ok.inj hdivided)).symm

theorem sorts_eq_orderBy (hp : Planned spec schema capabilities dialect p) :
    p.remote.sort ++ p.localSort = spec.orderBy := by
  rw [hp.sort, hp.localSort]
  -- the keys are sent or they stay, all of them together
  cases sortPushable schema capabilities spec.orderBy with
  | true => exact List.append_nil _
  | false => rfl

theorem output_paths (hp : Planned spec schema capabilities dialect p) :
    p.output.map (·.path) = match spec.projection with
      | .all => schema.outputColumns
      | .columns cs => cs.map (·.path) := by
  have houtput := hp.output
  unfold resolveProjection at houtput
  cases hprojection : spec.projection with
  | all =>
    rw [hprojection] at houtput
    -- all that rows carry, as plain columns, each of which is its path
    obtain houtput := Except.ok.inj houtput
    rw [← houtput, List.map_map]
    exact List.map_id _
  | columns cs =>
    rw [hprojection] at houtput
    obtain ⟨-, -, houtput⟩ := bind_eq_ok_iff.1 houtput
    rw [← Except.ok.inj houtput]

/-- **A plan reads what its spec asks for**, and nothing else. -/
theorem reads_eq (hp : Planned spec schema capabilities dialect p) :
    p.reads = spec.reads schema capabilities dialect := by
  unfold Plan.reads Spec.reads
  rw [hp.output_paths, hp.residual_eq_leftOver, hp.sorts_eq_orderBy]

/-- **Every path that a plan reads is carried by rows or concealed.** -/
theorem carries_or_conceals (hp : Planned spec schema capabilities dialect p)
    (hpath : path ∈ p.reads) : schema.Carries path ∨ schema.Conceals path := by
  unfold Plan.reads at hpath
  rw [List.mem_append, List.mem_append, hp.sorts_eq_orderBy] at hpath
  rcases hpath with (hpath | hpath) | hpath
  · -- the projection: all columns that rows have, or columns that were checked one by one
    have houtput := hp.output
    unfold resolveProjection at houtput
    cases hprojection : spec.projection with
    | all =>
      rw [hp.output_paths, hprojection] at hpath
      -- all columns were asked for, and rows carry them
      exact .inl (.inl hpath)
    | columns cs =>
      rw [hprojection] at houtput
      rw [hp.output_paths, hprojection] at hpath
      obtain ⟨⟨⟩, hchecked, -⟩ := bind_eq_ok_iff.1 houtput
      obtain ⟨c, hc, rfl⟩ := List.mem_map.1 hpath
      obtain ⟨hresolve, hshown⟩ := requireOutput_eq_ok_iff.1 (forM_eq_ok_iff.1 hchecked c hc)
      exact Schema.carries_or_conceals hresolve hshown
  · -- the conditions left over: resolved with all conditions, and checked apart
    obtain ⟨c, hc, rfl⟩ := List.mem_map.1 hpath
    have hmem : c ∈ spec.conditions := hp.residual_subset hc
    obtain ⟨type, htype⟩ := hp.conditions c hmem
    have hresolve : (schema.resolve c.column).isSome :=
      Option.isSome_of_eq_some (Schema.require_eq_ok_iff.1 htype)
    exact Schema.carries_or_conceals hresolve (checkResidual_eq_ok_iff.1 hp.residual c hc)
  · -- the order, by whomever it is made
    obtain ⟨k, hk, rfl⟩ := List.mem_map.1 hpath
    obtain ⟨hresolve, hshown⟩ := requireOutput_eq_ok_iff.1 (hp.order k hk)
    exact Schema.carries_or_conceals hresolve hshown

end Planned

/-! ### The main statement -/

/-- **What a plan reads is carried by rows exactly if it is not concealed**, and where a path would
be read that is neither, there is no plan, and the remote side is not asked. -/
theorem plan_references (spec : Spec) (schema : Schema) (capabilities : Capabilities)
    (dialect : Option Dialect) :
    (∀ p, plan spec schema capabilities dialect = .ok p →
      ∀ path ∈ p.reads, schema.Carries path ↔ ¬ schema.Conceals path) ∧
    ∀ path ∈ spec.reads schema capabilities dialect,
      ¬ schema.Carries path → ¬ schema.Conceals path →
        ∃ e, plan spec schema capabilities dialect = .error e ∧
          ∀ {σ : Type} (source : Source σ) (s : σ),
            ((Pipeline.mk schema capabilities dialect none).run source spec).run.run s =
              (.error e, s) := by
  constructor
  · intro p h path hpath
    have hp := Planned.of_plan h
    constructor
    · exact fun hcarries hconceals => hconceals.not_carries hcarries
    · -- a path that is read is one or the other
      exact fun hnot => (hp.carries_or_conceals hpath).resolve_right hnot
  · intro path hpath hcarries hconceals
    cases hplan : plan spec schema capabilities dialect with
    | ok p =>
      have hp := Planned.of_plan hplan
      rw [← hp.reads_eq] at hpath
      -- a plan would read the path, so it would be one of the two
      exact absurd (hp.carries_or_conceals hpath) (not_or.2 ⟨hcarries, hconceals⟩)
    | error e =>
      refine ⟨e, rfl, fun source s => ?_⟩
      show ((liftM (plan spec schema capabilities dialect) >>= _ : Action _ RowSet)).run.run s = _
      rw [lift_bind_run, hplan]

/-- Posts, with options that only conditions may name. -/
def posts : Schema := ⟨"posts", [.output "id" .integer, .condition "options" .json]⟩

/-- A spec for columns alone. -/
def Spec.ofPaths (paths : List String) : Spec :=
  { Spec.everything with projection := .columns (paths.map .plain) }

/-- The region is read from the options of posts and concealed; the options themselves cannot be
read. -/
theorem plan_references_posts :
    (∃ p, plan (.ofPaths ["id", "options.region"]) posts .filtering none = .ok p ∧
      "options.region" ∈ p.reads ∧
        (posts.Carries "options.region" ↔ ¬ posts.Conceals "options.region")) ∧
    "options" ∈ (Spec.ofPaths ["id", "options"]).reads posts .filtering none ∧
      ¬ posts.Carries "options" ∧ ¬ posts.Conceals "options" ∧
      ∃ e, plan (.ofPaths ["id", "options"]) posts .filtering none = .error e ∧
        ∀ {σ : Type} (source : Source σ) (s : σ),
          ((Pipeline.mk posts .filtering none none).run source
            (.ofPaths ["id", "options"])).run.run s = (.error e, s) := by
  have hplan : plan (.ofPaths ["id", "options.region"]) posts .filtering none = .ok _ := rfl
  have hregion : "options.region" ∈ ["id", "options.region"] :=
    List.mem_cons_of_mem _ List.mem_cons_self
  have hoptions : "options" ∈ ["id", "options"] := List.mem_cons_of_mem _ List.mem_cons_self
  have hcarries : ¬ posts.Carries "options" := by decide +kernel
  have hconceals : ¬ posts.Conceals "options" := by decide +kernel
  -- the first half on the plan that there is, the second on the path that is refused
  exact ⟨⟨_, hplan, hregion, (plan_references _ _ _ _).1 _ hplan _ hregion⟩, hoptions, hcarries,
    hconceals, (plan_references _ _ _ _).2 _ hoptions hcarries hconceals⟩

/-- **A place that no row carries is planned for.** -/
theorem posts_region_planned :
    ∃ p, plan (.ofPaths ["id", "options.region"]) posts .filtering none = .ok p ∧
      p.output.map (·.path) = ["id", "options.region"] ∧ ¬ posts.Carries "options.region" :=
  ⟨_, rfl, rfl, by decide +kernel⟩

/-! ### Concealed places -/

theorem exists_pathSteps_of_pathHead? {head : String} (h : Schema.pathHead? path = some head) :
    ∃ rest, pathSteps path = head :: rest := by
  unfold Schema.pathHead? at h
  obtain ⟨⟨before, after⟩, hsplit, rfl⟩ := Option.map_eq_some_iff.1 h
  unfold pathSteps
  -- the head is what stands before the first dot, so it is the first step
  rw [Text.splitOn_eq, hsplit]
  exact ⟨_, rfl⟩

theorem lookup_nil (path : String) : lookup [] path = none := by
  unfold lookup
  cases pathSteps path with
  | nil => rfl
  | cons first rest => cases rest <;> rfl

/-- **A concealed place is missing in every row**, if no name is declared twice. -/
theorem Shape.lookup_of_conceals {shape : Shape} {payloads : List Json} {rows : List Record}
    (hdistinct : (shape.schema.columns.map (·.name)).Nodup) (h : shape.unify payloads = .ok rows)
    (hpath : shape.schema.Conceals path) {row : Record} (hrow : row ∈ rows) :
    lookup row path = none := by
  obtain ⟨hnone, head, hhead, hfound, -⟩ := hpath
  have hkeys := (complete_of_mem_unify (Schema.nodup_outputColumns hdistinct) h hrow).keys
  -- a row has the columns that rows carry and no others
  have hmissing {name : String} (hnot : name ∉ shape.schema.outputColumns) :
      Record.get? row name = none := by
    rw [← hkeys, ← Record.get?_isSome_iff] at hnot
    simpa using hnot
  have hhidden : head ∉ shape.schema.outputColumns := by
    intro hmem
    obtain ⟨c, hc, hname⟩ := List.mem_map.1 hmem
    obtain ⟨hdeclared, hshown⟩ := List.mem_filter.1 hc
    -- the head is the name of one column, and that is for conditions only
    have hsame : c = .condition head .json :=
      List.inj_on_of_nodup_map hdistinct hdeclared (Schema.mem_of_column? hfound).1 hname
    rw [hsame] at hshown
    exact absurd hshown Bool.false_ne_true
  obtain ⟨rest, hsteps⟩ := exists_pathSteps_of_pathHead? hhead
  -- the whole path is no key either, so the row is looked up as if it were empty
  have hnowhere : path ∉ shape.schema.outputColumns := fun hmem =>
    Schema.column?_ne_none hmem hnone
  calc lookup row path = lookup [] path :=
        lookup_congr hsteps (hmissing hnowhere) (hmissing hhidden)
    _ = none := lookup_nil path

/-- **A condition on a concealed place keeps no row** if it is left over, whatever came back. -/
theorem Pipeline.rows_of_conceals {pipeline : Pipeline} {payloads : List Json} {answer : RowSet}
    {c : Condition} (hdistinct : (pipeline.schema.columns.map (·.name)).Nodup)
    (h : pipeline.finish p payloads = .ok answer) (hc : c ∈ p.residual)
    (hpath : pipeline.schema.Conceals c.column) : answer.rows = [] := by
  unfold finish at h
  obtain ⟨rows, hrows, h⟩ := bind_eq_ok_iff.1 h
  unfold Plan.complete at h
  obtain ⟨filters, hfilters, h⟩ := bind_eq_ok_iff.1 h
  obtain rfl := Except.ok.inj h
  have hkept : rows.filter (meetsAll filters) = [] := by
    rw [List.filter_eq_nil_iff]
    -- a row that is kept meets this condition too, and its cell is missing
    intro row hrow hmeets
    rw [meetsAll_eq_holdAll hfilters] at hmeets
    have hholds := List.all_eq_true.1 hmeets c hc
    have hmissing : lookup row c.column = none :=
      Shape.lookup_of_conceals hdistinct hrows hpath hrow
    unfold Condition.holds at hholds
    split at hholds
    case h_1 compiled hcompiled =>
      rw [CompiledCondition.test, (CompiledCondition.of_compile hcompiled).1, hmissing] at hholds
      exact absurd hholds Bool.false_ne_true
    case h_2 => exact absurd hholds Bool.false_ne_true
  have hsorted : sortLocally pipeline.schema p.localSort [] = [] := by
    unfold sortLocally
    split <;> rfl
  have hcut : cutWindow p.localOffset p.localLimit ([] : List Record) = [] := by
    unfold cutWindow
    rw [List.drop_nil]
    cases p.localLimit with
    | none => rfl
    | some n => exact List.take_nil
  -- nothing is kept, nothing sorted, nothing cut
  show (cutWindow _ _ (sortLocally _ _ (rows.filter _))).map _ = []
  rw [hkept, hsorted, hcut]
  rfl

end Pushdown
