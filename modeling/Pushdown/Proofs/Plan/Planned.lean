import Pushdown.Plan
import Pushdown.Proofs.Outcome

/-!
# What a plan consists of

`plan` checks the references of a spec, divides its conditions and its window, and puts the parts
together. `Planned` lists the checks that were passed and says of every part of the plan what it is;
`Planned.of_plan` is the only place where `plan` itself is unfolded. A statement about plans is
derived from these fields.

The window is divided in one of four ways, `splitWindow_cases`, and the default limit changes the
request in one case only, `withDefaultLimit_cases`. With a default limit no request is unbounded,
`Planned.bounded_of_default`.
-/

namespace Pushdown

variable {spec : Spec} {schema : Schema} {capabilities : Capabilities} {dialect : Option Dialect}
  {p : Plan}

/-- **The window can go to the remote side**: no condition is left over, and no order. -/
def windowPushable (spec : Spec) (schema : Schema) (capabilities : Capabilities)
    (residual : Conditions) : Bool :=
  residual.isEmpty && (spec.orderBy.isEmpty || sortPushable schema capabilities spec.orderBy)

/-- The window of a spec divided, where these conditions are left over. -/
def windowSplit (spec : Spec) (schema : Schema) (capabilities : Capabilities)
    (residual : Conditions) : WindowSplit :=
  splitWindow spec capabilities (windowPushable spec schema capabilities residual)

/-- The limit of the request and the number of records needed, where these conditions are left
over. -/
def requestLimits (spec : Spec) (schema : Schema) (capabilities : Capabilities)
    (residual : Conditions) : Option Nat × Option Nat :=
  withDefaultLimit capabilities (windowSplit spec schema capabilities residual).remoteLimit
    (neededRecords spec (windowPushable spec schema capabilities residual)
      (windowSplit spec schema capabilities residual))

/-- **A plan and the spec it was made for.** -/
structure Planned (spec : Spec) (schema : Schema) (capabilities : Capabilities)
    (dialect : Option Dialect) (p : Plan) : Prop where
  /-- The columns asked for are resolved. -/
  output : resolveProjection schema spec.projection = .ok p.output
  /-- The columns of the conditions are resolved. -/
  conditions : ∀ c ∈ spec.conditions, ∃ type, schema.require c.column .filter = .ok type
  /-- The columns of the order are carried by rows. -/
  order : ∀ k ∈ spec.orderBy, requireOutput schema k.column .order = .ok ()
  /-- The window stays below the ceiling. -/
  window : checkWindow spec capabilities = .ok ()
  /-- The conditions are divided between request and plan. -/
  divided : divideConditions spec.conditions capabilities dialect =
    .ok ⟨p.remote.filter, p.residual, p.remote.similarity⟩
  /-- The conditions left over are on columns that rows carry. -/
  residual : checkResidual schema p.residual = .ok ()
  table : p.remote.table = schema.table
  columns : p.remote.columns = neededColumns p.output p.residual p.localSort
  sort : p.remote.sort =
    if sortPushable schema capabilities spec.orderBy then spec.orderBy else []
  localSort : p.localSort =
    if sortPushable schema capabilities spec.orderBy then [] else spec.orderBy
  limit : p.remote.limit = (requestLimits spec schema capabilities p.residual).1
  maxRecords : p.remote.maxRecords = (requestLimits spec schema capabilities p.residual).2
  offset : p.remote.offset = (windowSplit spec schema capabilities p.residual).remoteOffset
  localLimit : p.localLimit = (windowSplit spec schema capabilities p.residual).localLimit
  localOffset : p.localOffset = (windowSplit spec schema capabilities p.residual).localOffset

/-- **Inversion of planning.** -/
theorem Planned.of_plan (h : plan spec schema capabilities dialect = .ok p) :
    Planned spec schema capabilities dialect p := by
  unfold plan at h
  obtain ⟨output, houtput, h⟩ := bind_eq_ok_iff.1 h
  obtain ⟨⟨⟩, hconditions, h⟩ := bind_eq_ok_iff.1 h
  obtain ⟨⟨⟩, horder, h⟩ := bind_eq_ok_iff.1 h
  obtain ⟨⟨⟩, hwindow, h⟩ := bind_eq_ok_iff.1 h
  obtain ⟨translation, hdivided, h⟩ := bind_eq_ok_iff.1 h
  obtain ⟨⟨⟩, hresidual, h⟩ := bind_eq_ok_iff.1 h
  -- nothing fails behind the checks, so every further part of the plan is what it was set to
  obtain rfl := Except.ok.inj h
  exact {
    output := houtput
    conditions := fun c hc => discard_eq_ok_iff.1 (forM_eq_ok_iff.1 hconditions c hc)
    order := forM_eq_ok_iff.1 horder
    window := hwindow
    divided := hdivided
    residual := hresidual
    table := rfl
    columns := rfl
    sort := rfl
    localSort := rfl
    limit := rfl
    maxRecords := rfl
    offset := rfl
    localLimit := rfl
    localOffset := rfl }

/-! ### The window -/

/-- **The four ways to divide a window**: it stays, or it goes without, with or in spite of an
offset. -/
theorem splitWindow_cases (spec : Spec) (capabilities : Capabilities) (pushable : Bool) :
    ((pushable && capabilities.limit) = false ∧
      splitWindow spec capabilities pushable = ⟨none, none, spec.limit, spec.offset⟩) ∨
    (pushable = true ∧ capabilities.limit = true ∧ spec.offset = none ∧
      splitWindow spec capabilities pushable = ⟨spec.limit, none, none, none⟩) ∨
    (∃ offset, pushable = true ∧ capabilities.limit = true ∧ spec.offset = some offset ∧
      capabilities.offset = true ∧
      splitWindow spec capabilities pushable = ⟨spec.limit, some offset, none, none⟩) ∨
    (∃ offset, pushable = true ∧ capabilities.limit = true ∧ spec.offset = some offset ∧
      capabilities.offset = false ∧ splitWindow spec capabilities pushable =
        ⟨spec.limit.map (cappedSum · offset), none, spec.limit, some offset⟩) := by
  unfold splitWindow
  -- without a pushable window or a limit everything stays
  cases hpush : pushable && capabilities.limit with
  | false => exact .inl ⟨rfl, rfl⟩
  | true =>
    obtain ⟨hp, hl⟩ := Bool.and_eq_true_iff.1 hpush
    -- otherwise it depends on the offset, and on whether one is taken
    cases hoffset : spec.offset with
    | none => exact .inr (.inl ⟨hp, hl, rfl, rfl⟩)
    | some offset =>
      cases hcan : capabilities.offset with
      | true => exact .inr (.inr (.inl ⟨offset, hp, hl, rfl, rfl, rfl⟩))
      | false => exact .inr (.inr (.inr ⟨offset, hp, hl, rfl, rfl, rfl⟩))

/-- **An offset is sent** only as it is in the spec, with a window that can go, and to a remote side
that takes both parts of one. -/
theorem remoteOffset_splitWindow_eq_some_iff {pushable : Bool} {n : Nat} :
    (splitWindow spec capabilities pushable).remoteOffset = some n ↔
      pushable = true ∧ (capabilities.limit = true ∧ capabilities.offset = true) ∧
        spec.offset = some n := by
  rcases splitWindow_cases spec capabilities pushable with
    ⟨hstays, hsplit⟩ | ⟨-, -, hnone, hsplit⟩ | ⟨offset, hpush, hlimit, ho, hcan, hsplit⟩ |
    ⟨offset, -, -, -, hcan, hsplit⟩
  all_goals rw [hsplit]
  · -- in three of the four ways no offset is sent, and each lacks one of the conditions
    refine iff_of_false nofun ?_
    rintro ⟨hpush, ⟨hlimit, -⟩, -⟩
    exact absurd hstays (by simp [hpush, hlimit])
  · refine iff_of_false nofun ?_
    rintro ⟨-, -, hn⟩
    exact absurd (hnone.symm.trans hn) nofun
  · rw [ho, and_iff_right hpush, and_iff_right ⟨hlimit, hcan⟩]
  · refine iff_of_false nofun ?_
    rintro ⟨-, ⟨-, htrue⟩, -⟩
    exact absurd (hcan.symm.trans htrue) nofun

/-- A remote side that takes no limit leaves the window as it is. -/
theorem windowSplit_of_no_limit (hlimit : capabilities.limit = false) (residual : Conditions) :
    windowSplit spec schema capabilities residual = ⟨none, none, spec.limit, spec.offset⟩ := by
  unfold windowSplit splitWindow
  rw [hlimit, Bool.and_false]
  rfl

/-- **The default limit** counts only where nothing else bounds the records needed. -/
theorem withDefaultLimit_cases (capabilities : Capabilities) (remoteLimit needed : Option Nat) :
    (needed = none ∧ ∃ limit, capabilities.cappedDefault = some limit ∧
      withDefaultLimit capabilities remoteLimit needed =
        (if capabilities.limit then some limit else remoteLimit, some limit)) ∨
    ((needed ≠ none ∨ capabilities.cappedDefault = none) ∧
      withDefaultLimit capabilities remoteLimit needed = (remoteLimit, needed)) := by
  unfold withDefaultLimit
  cases needed with
  -- a number that is known stays as it is
  | some n => exact .inr ⟨.inl (by simp), rfl⟩
  | none =>
    cases hdefault : capabilities.cappedDefault with
    | some limit => exact .inl ⟨rfl, limit, rfl, rfl⟩
    | none => exact .inr ⟨.inr rfl, rfl⟩

/-- A remote side that takes a limit is sent as many records as are needed for its limit. -/
theorem neededRecords_splitWindow (hlimit : capabilities.limit = true) (pushable : Bool) :
    neededRecords spec pushable (splitWindow spec capabilities pushable) =
      (splitWindow spec capabilities pushable).remoteLimit := by
  unfold neededRecords
  rcases splitWindow_cases spec capabilities pushable with
    ⟨hstays, hsplit⟩ | ⟨-, -, -, hsplit⟩ | ⟨offset, -, -, -, -, hsplit⟩ |
    ⟨offset, -, -, -, -, hsplit⟩
  · -- the window stays although limits are taken, so it was not pushable
    rw [hlimit, Bool.and_true] at hstays
    rw [hsplit, hstays]
    rfl
  -- in the others the number sent is the number needed, if there is one
  all_goals
    rw [hsplit]
    cases spec.limit <;> simp

/-- **A default limit bounds the records needed**, and they are the limit of the request if the
remote side takes one. -/
theorem Planned.bounded_of_default (hp : Planned spec schema capabilities dialect p) {default : Nat}
    (hdefault : capabilities.cappedDefault = some default) :
    ∃ most, p.remote.maxRecords = some most ∧
      p.remote.limit = if capabilities.limit then some most else none := by
  rw [hp.limit, hp.maxRecords]
  unfold requestLimits
  cases hlimit : capabilities.limit with
  | true =>
    -- before the default limit, limit and records needed are the same number or both missing
    unfold windowSplit withDefaultLimit
    rw [neededRecords_splitWindow hlimit, hdefault, hlimit]
    cases (splitWindow spec capabilities
      (windowPushable spec schema capabilities p.residual)).remoteLimit with
    | none => exact ⟨default, rfl, rfl⟩
    | some most => exact ⟨most, rfl, rfl⟩
  -- no limit is taken, so the default only bounds the records needed
  | false =>
    rw [windowSplit_of_no_limit hlimit]
    unfold withDefaultLimit
    rw [hdefault, hlimit]
    cases neededRecords spec (windowPushable spec schema capabilities p.residual)
      ⟨none, none, spec.limit, spec.offset⟩ with
    | none => exact ⟨default, rfl, rfl⟩
    | some most => exact ⟨most, rfl, rfl⟩

end Pushdown
