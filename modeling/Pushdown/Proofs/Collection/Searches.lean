import Pushdown.Proofs.Plan.Planned
import Pushdown.Proofs.Remote.Failures
import Pushdown.Proofs.Store.Recording
import Pushdown.Tables.Collection

/-!
# Searches are bounded

A search for neighbours needs a limit, and a collection refuses one that has none. The limit of a
request comes from four places: the window of the spec, as it is or widened by an offset; the
default limit; and neither, where conditions or an order are left to do locally. The main statement,
`plan_bounded_of_default`, is that with a default limit no way is left on which a request is
unbounded: the number of records needed is there, and it is the limit of the request exactly if the
remote side takes one.

A collection always has a default limit, which settings can change but not remove
(`exists_cappedDefault`). So where it takes limits its refusal is dead code. That is said about a
whole selection: if it fails by this refusal, the words are the store's own.
-/

namespace Pushdown

variable {σ : Type}

/-- **A store answers with a cause of failure**, to an attempt to connect or to a reading. -/
def Store.Answers (store : Store σ) (cause : FetchError) : Prop :=
  (∃ page held s, (store.connect.run.run s).1 = .error (.remoteFetch page held cause)) ∨
    ∃ query s, ((store.query query).run s).1 = .error cause

/-- Why a collection refuses a search without a limit. -/
def searchRefusal : FetchError := .protocol "similarity search needs a limit"

namespace Collection

variable {settings : Settings} {name : String} {spec : Spec} {p : Plan}

/-- Settings can change the default limit of a collection but not remove it. -/
theorem exists_defaultLimit (settings : Settings) (name : String) :
    ∃ default, (pipeline settings name).planCapabilities.defaultLimit = some default := by
  change ∃ default,
    (settings.capabilitiesFor name (capabilities settings)).defaultLimit = some default
  unfold Settings.capabilitiesFor
  -- with a setting for the collection its limit wins, and the standard one fills in
  cases settings.overrides? name with
  | none => exact ⟨settings.defaultLimit, rfl⟩
  | some o =>
    change ∃ default, o.defaultLimit.or (some settings.defaultLimit) = some default
    cases o.defaultLimit with
    | none => exact ⟨settings.defaultLimit, rfl⟩
    | some limit => exact ⟨limit, rfl⟩

/-- A request with a limit is passed on to the store. -/
theorem source_run_of_limit {store : Store σ} {request : RemoteRequest}
    (hlimit : request.limit ≠ none) (token : Option String) (s : σ) :
    (source store name request token).run s =
      (((store.query (queryOf name request)).run s).1.map fun hits =>
        .last (hits.map foldMetadata), ((store.query (queryOf name request)).run s).2) := by
  unfold source
  -- the guard asks for a missing limit, and there is one
  rw [if_neg (by simp [hlimit])]
  rfl

theorem answers_of_source_answers {store : Store σ} {request : RemoteRequest} {cause : FetchError}
    (hlimit : request.limit ≠ none) (h : (source store name).Answers request cause) :
    store.Answers cause := by
  obtain ⟨token, s, h⟩ := h
  rw [source_run_of_limit hlimit] at h
  refine .inr ⟨queryOf name request, s, ?_⟩
  -- only the answer of the store can be an error, as folding the hits is none
  cases hquery : ((store.query (queryOf name request)).run s).1 with
  | ok hits =>
    rw [hquery] at h
    exact absurd h nofun
  | error cause' =>
    rw [hquery] at h
    exact congrArg Except.error (Except.error.inj h)

/-- **A search with a limit is refused by nobody but the store.** -/
theorem answers_of_select_refused {store : Store σ} {page held : Nat} {s : σ}
    (hplan : (pipeline settings name).plan spec = .ok p) (hlimit : p.remote.limit ≠ none)
    (h : (((table settings store name).select spec).run.run s).1 =
      .error (.remoteFetch page held searchRefusal)) : store.Answers searchRefusal := by
  change ((liftM ((pipeline settings name).plan spec) >>= fun plan => store.withConnection
    ((pipeline settings name).runShaped plan (source store name) .ok) :
      Action σ RowSet).run.run s).1 = _ at h
  rw [lift_bind_run, hplan] at h
  dsimp only at h
  rw [Store.withConnection_run] at h
  -- the refusal comes from the connection or from the selection over it
  cases hconnect : (store.connect.run.run s).1 with
  | error e =>
    rw [hconnect] at h
    obtain rfl : e = .remoteFetch page held searchRefusal := Except.error.inj h
    exact .inl ⟨page, held, s, hconnect⟩
  | ok =>
    rw [hconnect] at h
    -- neither the local part nor the collection of pages uses these words
    have hblames := (blames_of_runShaped h).resolve_right id
    generalize hcause : searchRefusal = cause at hblames ⊢
    cases hblames with
    | answer hanswers => exact answers_of_source_answers hlimit hanswers
    | circle =>
      -- the other words that a collection of pages has begin differently
      have hhead := congrArg (·.toList.head?) (FetchError.protocol.inj hcause)
      rw [String.toList_append, String.toList_append] at hhead
      exact absurd hhead (by simp)
    | endless => exact absurd hcause (by decide)

end Collection

/-! ### Bounds -/

/-- **With a default limit every request is bounded.** A plan for a remote side with a default limit
has a number of records needed, which is also the limit of its request if the remote side takes one;
otherwise the request has no limit. So a selection that was planned for a collection that takes
limits has one, and it is not refused for want of a limit, unless the store says so itself. -/
theorem plan_bounded_of_default :
    (∀ (spec : Spec) (schema : Schema) (capabilities : Capabilities) (dialect : Option Dialect)
      (p : Plan) (default : Nat), capabilities.defaultLimit = some default →
      plan spec schema capabilities dialect = .ok p →
      ∃ most, p.remote.maxRecords = some most ∧
        p.remote.limit = if capabilities.limit then some most else none) ∧
    ∀ (σ : Type) (store : Store σ) (settings : Settings) (name : String) (spec : Spec) (p : Plan),
      (Collection.pipeline settings name).capabilities.limit = true →
      (Collection.pipeline settings name).plan spec = .ok p →
      p.remote.limit ≠ none ∧
        (¬ store.Answers searchRefusal → ∀ page held s,
          (((Collection.table settings store name).select spec).run.run s).1 ≠
            .error (.remoteFetch page held searchRefusal)) := by
  have hbounded {spec : Spec} {schema : Schema} {capabilities : Capabilities}
      {dialect : Option Dialect} {p : Plan} {default : Nat}
      (hdefault : capabilities.defaultLimit = some default)
      (hplan : plan spec schema capabilities dialect = .ok p) :
      ∃ most, p.remote.maxRecords = some most ∧
        p.remote.limit = if capabilities.limit then some most else none := by
    -- a default limit bounds the records before the capabilities are looked at
    have hcapped : capabilities.cappedDefault = some _ := congrArg (Option.map _) hdefault
    exact (Planned.of_plan hplan).bounded_of_default hcapped
  refine ⟨fun _ _ _ _ _ _ => hbounded, fun σ store settings name spec p hcan hplan => ?_⟩
  -- a collection is such a remote side, whatever the settings say
  obtain ⟨default, hdefault⟩ := Collection.exists_defaultLimit settings name
  obtain ⟨most, -, hmost⟩ := hbounded hdefault hplan
  have hlimit : p.remote.limit ≠ none := by
    have hcan' : (Collection.pipeline settings name).planCapabilities.limit = true := hcan
    rw [hmost, if_pos hcan']
    exact Option.some_ne_none most
  exact ⟨hlimit, fun hstore page held s h =>
    hstore (Collection.answers_of_select_refused hplan hlimit h)⟩

/-- A store that finds the same entities in every reading. -/
def Store.finding (hits : List Json) : Store Unit where
  connect := pure ()
  disconnect := pure ()
  query _ := pure (.ok hits)
  insert _ _ := pure (.ok 0)
  delete _ _ := pure (.ok 0)

/-- A search for neighbours whose order and offset are left to do locally. -/
def orderedSearch : Spec where
  table := some "docs"
  projection := .columns [.plain "id"]
  conditions := [⟨.eq, "search_vector", .scalar (.string "[1, 0]")⟩]
  orderBy := [⟨"content", .descending⟩]
  limit := none
  offset := some 1

/-- It is sent with the default limit, and answered. -/
theorem plan_bounded_of_default_orderedSearch :
    ∃ p, (Collection.pipeline .standard "docs").plan orderedSearch = .ok p ∧
      p.remote.similarity ≠ none ∧
      (∃ most, p.remote.maxRecords = some most ∧ p.remote.limit = some most) ∧
      ¬ (Store.finding [.object [("id", .ofInt 1)]]).Answers searchRefusal ∧
      ∀ page held, (((Collection.table .standard (Store.finding [.object [("id", .ofInt 1)]])
        "docs").select orderedSearch).run.run ()).1 ≠
          .error (.remoteFetch page held searchRefusal) := by
  have hplan : (Collection.pipeline .standard "docs").plan orderedSearch = .ok _ := rfl
  -- this store never answers with an error
  have hstore : ¬ (Store.finding [.object [("id", .ofInt 1)]]).Answers searchRefusal := by
    rintro (⟨page, held, s, h⟩ | ⟨query, s, h⟩)
    · exact absurd h nofun
    · exact absurd h nofun
  obtain ⟨hbounded, hsearches⟩ := plan_bounded_of_default
  exact ⟨_, hplan, by simp, hbounded _ _ _ _ _ 100 rfl hplan, hstore,
    fun page held => (hsearches Unit _ _ _ _ _ rfl hplan).2 hstore page held ()⟩

end Pushdown
