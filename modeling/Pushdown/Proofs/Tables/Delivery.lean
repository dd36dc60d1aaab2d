import Pushdown.Proofs.Plan.Planned
import Pushdown.Tables.Remote

/-!
# What plans hand over, requests pass on

A plan that leaves the order or the skipping of rows to the remote side does neither itself. So the
request that is built from it has to say both, or nobody does it. A request `Carries` a part of what
was asked for if it would have been another one with that part different.

A table over pages builds its request from the filter and the limit alone, and a collection from
these, the vector and the offset. No request says an order, then, and only those of collections say
an offset (`delivers_iff_request`). Whether a plan hands an order or an offset over is a matter of
the capabilities. No table claims by itself that its remote side sorts, and of the tables over pages
none claims a limit or an offset; but the settings can claim it for them.

The main statement, `plan_delivers_iff`, puts the two together. What a plan hands over is passed on
unless the settings claim what the requests cannot say: an order by declared columns, or, for a
table over pages whose rows are its records, an offset behind a window that is not done locally.
-/

namespace Pushdown

variable {settings : Settings} {spec : Spec} {p : Plan} {r : RemoteRequest}

/-! ### Tables over remote sides -/

/-- **A table over a remote side**: a collection of a vector store, or one of the tables that
collect pages. -/
inductive RemoteTable where
  /-- A collection. -/
  | collection (name : String)
  /-- Comments. -/
  | comments (i : Http.PageInterface)
  /-- Videos. -/
  | videos (i : Http.PageInterface)
  /-- Channels. -/
  | channels (i : Http.PageInterface)
  /-- News. -/
  | news (i : Http.PageInterface)

namespace RemoteTable

/-- The name under which the settings adjust a table. -/
def target : RemoteTable → String
  | collection name => name
  | comments _ => "comments"
  | videos _ => "videos"
  | channels _ => "channels"
  | news _ => "news"

/-- The pipeline of a table. -/
def pipeline (settings : Settings) : RemoteTable → Pipeline
  | collection name => Collection.pipeline settings name
  | comments _ => VideoSite.commentPipeline settings
  | videos _ => VideoSite.videoPipeline settings
  | channels _ => VideoSite.channelPipeline settings
  | news _ => News.pipeline settings

/-- What a table checks before it plans. -/
def check : RemoteTable → Conditions → Except QueryError Unit
  | collection _ => fun _ => .ok ()
  | comments _ => VideoSite.checkCommentTarget
  | videos _ => VideoSite.checkMentioned "video_id"
  | channels _ => VideoSite.checkMentioned "channel_id"
  | news _ => fun _ => .ok ()

/-- **The plan of a table for a spec.** -/
def plan (settings : Settings) (t : RemoteTable) (spec : Spec) : Except QueryError Plan := do
  t.check spec.conditions
  (t.pipeline settings).plan spec

/-- **What is sent for a request**, for the first page if there are pages. -/
def request : RemoteTable → RemoteRequest → StoreQuery ⊕ Http.Request
  | collection name, r => .inl (Collection.queryOf name r)
  | comments i, r | videos i, r | channels i, r | news i, r => .inr (i.call r none)

section Answers

variable {σ : Type} (store : Store σ) (network : Http.Network σ)

/-- The table itself, over a store and a network. -/
def table (settings : Settings) : RemoteTable → Table σ
  | collection name => Collection.table settings store name
  | comments i => VideoSite.comments settings (i.source network)
  | videos i => VideoSite.videos settings (i.source network)
  | channels i => VideoSite.channels settings (i.source network)
  | news i => News.table settings (i.source network)

/-- The source behind a table. -/
def source : RemoteTable → Source σ
  | collection name => Collection.source store name
  | comments i | videos i | channels i | news i => i.source network

/-- What a table makes of a plan. -/
def answer (settings : Settings) (t : RemoteTable) (p : Plan) : Action σ RowSet :=
  let collect := (t.pipeline settings).runShaped p (t.source store network)
  match t with
  | collection _ => store.withConnection (collect .ok)
  | comments _ => collect VideoSite.threadRecord
  | videos _ => collect fun v => .ok (VideoSite.videoRecord v)
  | channels _ => collect fun v => .ok (VideoSite.channelRecord v)
  | news _ => collect .ok

/-- **Tables answer by their plans.** -/
theorem select_eq (t : RemoteTable) (spec : Spec) :
    (t.table store network settings).select spec =
      liftM (t.plan settings spec) >>= t.answer store network settings := by
  cases t with
  | collection | comments | videos | channels | news => rfl

/-- **What is sent is all that a source goes by**: requests that are sent alike are answered
alike. -/
theorem source_eq_of_request_eq {t : RemoteTable} {r r' : RemoteRequest}
    (h : t.request r = t.request r') :
    t.source store network r none = t.source store network r' none := by
  -- what is sent for the first page is all that goes over the network
  have hpages {i : Http.PageInterface} (hcall : i.call r none = i.call r' none) :
      i.source network r none = i.source network r' none := by
    unfold Http.PageInterface.source
    rw [hcall]
  cases t with
  | collection name =>
    have hquery : Collection.queryOf name r = Collection.queryOf name r' := Sum.inl.inj h
    -- whether there is a search and a limit can be told from what is sent
    have hvector : r.similarity.isSome = r'.similarity.isSome := by
      have := congrArg (·.vector.isSome) hquery
      simpa [Collection.queryOf] using this
    have hlimit : r.limit = r'.limit := congrArg StoreQuery.limit hquery
    change Collection.source store name r none = Collection.source store name r' none
    unfold Collection.source
    rw [hquery, hvector, hlimit]
  | comments i => exact hpages (Sum.inr.inj h)
  | videos i => exact hpages (Sum.inr.inj h)
  | channels i => exact hpages (Sum.inr.inj h)
  | news i => exact hpages (Sum.inr.inj h)

end Answers

/-! ### What requests say -/

variable {t : RemoteTable}

/-- **A part of what was asked for is carried**: whatever is sent alike agrees in this part. -/
def Carries {α : Type} (t : RemoteTable) (part : RemoteRequest → α) (r : RemoteRequest) : Prop :=
  ∀ r', t.request r' = t.request r → part r' = part r

/-- **An order and an offset that are asked for are carried.** -/
structure Delivers (t : RemoteTable) (r : RemoteRequest) : Prop where
  order : r.sort ≠ [] → t.Carries (·.sort) r
  offset : ∀ n, r.offset = some n → 0 < n → t.Carries (·.offset) r

/-- The requests of a table say an offset. -/
def saysOffset : RemoteTable → Bool
  | collection _ => true
  | comments _ => false
  | videos _ => false
  | channels _ => false
  | news _ => false

theorem request_with_sort (t : RemoteTable) (r : RemoteRequest) (keys : List OrderKey) :
    t.request { r with sort := keys } = t.request r := by
  cases t <;> rfl

theorem request_with_offset (h : t.saysOffset = false) (r : RemoteRequest) (offset : Option Nat) :
    t.request { r with offset := offset } = t.request r := by
  cases t with
  | collection name => exact Bool.noConfusion h
  | comments i => rfl
  | videos i => rfl
  | channels i => rfl
  | news i => rfl

theorem carries_offset_iff {n : Nat} (hn : r.offset = some n) :
    t.Carries (·.offset) r ↔ t.saysOffset = true := by
  -- tables over pages say no offset, and a collection says it as it is
  cases hsaid : t.saysOffset with
  | false =>
    refine iff_of_false (fun hcarries => ?_) (by decide)
    -- the request without the offset is sent alike
    have hnone := hcarries { r with offset := none } (request_with_offset hsaid r none)
    exact absurd (hnone.trans hn) nofun
  | true =>
    refine iff_of_true (fun r' hr' => ?_) rfl
    cases t with
    | collection name => exact congrArg StoreQuery.offset (Sum.inl.inj hr')
    | comments | videos | channels | news => exact Bool.noConfusion hsaid

/-- **No order is passed on, and offsets only by tables whose requests say them.** -/
theorem delivers_iff_request : t.Delivers r ↔
    r.sort = [] ∧ ¬ (t.saysOffset = false ∧ ∃ n, r.offset = some n ∧ 0 < n) := by
  constructor
  · rintro ⟨horder, hoffset⟩
    constructor
    · by_contra hne
      -- an order can be taken away without any change of what is sent
      exact hne (horder hne { r with sort := [] } (request_with_sort t r [])).symm
    · rintro ⟨hsaid, n, hn, hpos⟩
      exact absurd ((carries_offset_iff hn).1 (hoffset n hn hpos)) (by simp [hsaid])
  · rintro ⟨hsort, hoffset⟩
    refine ⟨fun hne => absurd hsort hne, fun n hn hpos => (carries_offset_iff hn).2 ?_⟩
    by_contra hsaid
    exact hoffset ⟨Bool.eq_false_iff.2 hsaid, n, hn, hpos⟩

end RemoteTable

/-! ### What settings claim -/

/-- **The settings claim something for a remote side.** -/
def Settings.Claims (settings : Settings) (target : String) (what : Overrides → Option Bool) :
    Prop :=
  (settings.overrides? target).bind what = some true

/-- A capability that is not there by itself is there if the settings claim it. -/
theorem Settings.claims_iff {target : String} {base : Capabilities}
    {what : Overrides → Option Bool} (field : Capabilities → Bool) (hbase : field base = false)
    (happly : ∀ o : Overrides, field (o.apply base) = (what o).getD (field base)) :
    field (settings.capabilitiesFor target base) = true ↔ settings.Claims target what := by
  unfold Claims capabilitiesFor
  -- without settings for the table it has its own capabilities
  cases settings.overrides? target with
  | none => simp [hbase]
  | some o =>
    dsimp only
    rw [happly, hbase, Option.bind_some]
    cases what o <;> simp

namespace RemoteTable

variable {t : RemoteTable}

/-- **An order that is handed over and not passed on**: one by declared columns, where the settings
claim that the remote side sorts. -/
def LosesOrder (settings : Settings) (t : RemoteTable) (spec : Spec) : Prop :=
  settings.Claims t.target (·.sort) ∧ spec.orderBy ≠ [] ∧
    ∀ k ∈ spec.orderBy, ((t.pipeline settings).schema.column? k.column).isSome = true

/-- **An offset that is handed over and not passed on**: one of a table over pages whose rows are
its records, where the settings claim a limit and an offset and nothing before the window is left.
-/
def LosesOffset (settings : Settings) (t : RemoteTable) (spec : Spec) (p : Plan) : Prop :=
  (t.saysOffset = false ∧ (t.pipeline settings).explode = none) ∧
    (settings.Claims t.target (·.limit) ∧ settings.Claims t.target (·.offset)) ∧
    (p.residual = [] ∧ spec.orderBy = []) ∧ ∃ n, spec.offset = some n ∧ 0 < n

/-- A plan of a table is one for the columns and capabilities of its pipeline. -/
theorem planned_of_plan (h : t.plan settings spec = .ok p) :
    Planned spec (t.pipeline settings).schema (t.pipeline settings).planCapabilities
      (t.pipeline settings).dialect p := by
  obtain ⟨-, -, hplan⟩ := bind_eq_ok_iff.1 h
  exact Planned.of_plan hplan

theorem sort_capability_iff :
    (t.pipeline settings).planCapabilities.sort = true ↔ settings.Claims t.target (·.sort) := by
  cases t with
  | collection | comments | videos | channels | news =>
    exact Settings.claims_iff (·.sort) rfl fun o => rfl

/-- Of the tables over pages only those whose rows are their records can be told to skip. -/
theorem window_capabilities_iff (h : t.saysOffset = false) :
    ((t.pipeline settings).planCapabilities.limit = true ∧
      (t.pipeline settings).planCapabilities.offset = true) ↔
    (t.pipeline settings).explode = none ∧
      (settings.Claims t.target (·.limit) ∧ settings.Claims t.target (·.offset)) := by
  cases t with
  | collection name => exact Bool.noConfusion h
  -- its rows are not its records, so its window stays
  | comments i => exact iff_of_false (fun h => Bool.noConfusion h.1) fun h => nomatch h.1
  | videos | channels | news =>
    have hexplode : (none : Option String) = none := rfl
    refine Iff.trans (and_congr ?_ ?_) (and_iff_right hexplode).symm
    · exact Settings.claims_iff (·.limit) rfl fun o => rfl
    · exact Settings.claims_iff (·.offset) rfl fun o => rfl

/-- The order can be handed over exactly if it gets lost. -/
theorem sortPushable_iff : sortPushable (t.pipeline settings).schema
    (t.pipeline settings).planCapabilities spec.orderBy = true ↔ t.LosesOrder settings spec := by
  unfold sortPushable LosesOrder
  rw [← sort_capability_iff, Bool.and_eq_true, Bool.and_eq_true, List.all_eq_true, and_assoc]
  simp

/-- **A plan hands an order over** exactly if it gets lost. -/
theorem sort_ne_nil_iff (h : t.plan settings spec = .ok p) :
    p.remote.sort ≠ [] ↔ t.LosesOrder settings spec := by
  rw [(planned_of_plan h).sort, ← sortPushable_iff]
  -- a list of keys that is handed over is not empty
  split
  case isTrue hpush =>
    exact iff_of_true (sortPushable_iff.1 hpush).2.1 hpush
  case isFalse hpush => exact iff_of_false (fun hne => hne rfl) hpush

/-- **A plan hands an offset over** that gets lost, where no order does. -/
theorem losesOffset_iff (h : t.plan settings spec = .ok p)
    (horder : ¬ t.LosesOrder settings spec) : t.LosesOffset settings spec p ↔
      t.saysOffset = false ∧ ∃ n, p.remote.offset = some n ∧ 0 < n := by
  have hp := planned_of_plan h
  -- the window goes to the remote side only if there is no order at all
  have hwindow : windowPushable spec (t.pipeline settings).schema
      (t.pipeline settings).planCapabilities p.residual = true ↔
        p.residual = [] ∧ spec.orderBy = [] := by
    rw [← sortPushable_iff, Bool.not_eq_true] at horder
    unfold windowPushable
    rw [horder, Bool.or_false, Bool.and_eq_true, List.isEmpty_iff, List.isEmpty_iff]
  have hoffset (n : Nat) : p.remote.offset = some n ↔
      (p.residual = [] ∧ spec.orderBy = []) ∧
        ((t.pipeline settings).planCapabilities.limit = true ∧
          (t.pipeline settings).planCapabilities.offset = true) ∧ spec.offset = some n := by
    rw [hp.offset, ← hwindow]
    exact remoteOffset_splitWindow_eq_some_iff
  unfold LosesOffset
  rw [and_assoc]
  refine and_congr_right fun hsaid => ?_
  simp only [hoffset, window_capabilities_iff hsaid]
  constructor
  · -- the two sides list the same conditions
    rintro ⟨hexplode, hclaims, hnothing, n, hn, hpos⟩
    exact ⟨n, ⟨hnothing, ⟨hexplode, hclaims⟩, hn⟩, hpos⟩
  · rintro ⟨n, ⟨hnothing, ⟨hexplode, hclaims⟩, hn⟩, hpos⟩
    exact ⟨hexplode, hclaims, hnothing, n, hn, hpos⟩

/-- **What a plan hands over is passed on, unless the settings claim what no request says.** -/
theorem plan_delivers_iff (h : t.plan settings spec = .ok p) :
    t.Delivers p.remote ↔ ¬ t.LosesOrder settings spec ∧ ¬ t.LosesOffset settings spec p := by
  rw [delivers_iff_request, ← sort_ne_nil_iff h, not_not]
  -- no order is handed over in what follows
  refine and_congr_right fun hsort => not_congr ?_
  have horder : ¬ t.LosesOrder settings spec := fun hloses => (sort_ne_nil_iff h).2 hloses hsort
  exact (losesOffset_iff h horder).symm

/-- Settings that claim an order for a collection of documents. -/
def claimingOrder : Settings :=
  { Settings.standard with targets := [("docs", { Overrides.unchanged with sort := some true })] }

/-- Even so its offsets are passed on. -/
theorem delivers_offset_of_docs : ∃ p,
    (collection "docs").plan claimingOrder { Spec.everything with offset := some 5 } = .ok p ∧
      p.remote.offset = some 5 ∧ (collection "docs").Delivers p.remote := by
  have hplan : (collection "docs").plan claimingOrder { Spec.everything with offset := some 5 } =
      .ok _ := rfl
  refine ⟨_, hplan, rfl, (plan_delivers_iff hplan).2 ⟨?_, ?_⟩⟩
  · rintro ⟨-, horder, -⟩
    exact horder rfl
  · rintro ⟨⟨hsaid, -⟩, -⟩
    exact Bool.noConfusion hsaid

/-- **An order by the identifier is not passed on**, and not made up for either. -/
theorem docs_order_not_delivered : ∃ p,
    (collection "docs").plan claimingOrder
        { Spec.everything with orderBy := [⟨"id", .ascending⟩] } = .ok p ∧
      p.remote.sort = [⟨"id", .ascending⟩] ∧ p.localSort = [] ∧
      ¬ (collection "docs").Delivers p.remote := by
  -- the plan hands its order over, and no request has one
  refine ⟨_, rfl, rfl, rfl, fun hdelivers => ?_⟩
  exact absurd (delivers_iff_request.1 hdelivers).1 nofun

end RemoteTable

end Pushdown
