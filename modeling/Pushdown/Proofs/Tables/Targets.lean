import Pushdown.Proofs.Condition.Extraction
import Pushdown.Proofs.Plan.Planned
import Pushdown.Proofs.Registry.Handover
import Pushdown.Proofs.Remote.Requests
import Pushdown.Proofs.Translation.Account
import Pushdown.Tables.VideoSite

/-!
# What a video site is asked about

The interface of a video site answers about one thing at a time. The tables over it look at a query
before they plan it, but what they look at is only whether a column is mentioned. That the column
is compared once, with an equality, and with a value is nobody's single task. The operator is
checked when a condition is rendered, and so is null; a second condition on the same column is found
when the parameters are put together, since they would have the same name.

The main statement is that this is enough. `requests_name_target` says of every selection: if the
conditions name one thing (`Resource.Names`), then whatever the source is asked has this as its only
parameter; and if they do not, the source is never asked.

The last step needs more than the translation. Behind an equality a translation would take a list as
it takes a value, and join its items. No selection has such a condition
(`isMembership_of_ofSelect`).
-/

namespace Pushdown.VideoSite

variable {σ : Type} {settings : Settings} {cs : Conditions} {spec : Spec}

/-! ### Specification -/

/-- **A table of the video site**, by what it is about. -/
inductive Resource where
  /-- Comments on a video, or on the videos of a channel. -/
  | comments
  /-- A video. -/
  | videos
  /-- A channel. -/
  | channels

namespace Resource

/-- **The columns that can name what is asked about**, with the parameters that they stand for. -/
def targets : Resource → List (String × String)
  | comments => [("video_id", "videoId"), ("channel_id", "allThreadsRelatedToChannelId")]
  | videos => [("video_id", "id")]
  | channels => [("channel_id", "id")]

/-- The column is one of them. -/
def isTarget (r : Resource) (column : String) : Bool := r.targets.any (·.1 == column)

/-- **Conditions name one thing**: a single one of them is on a column that can, and it is an
equality with a value. The entry is the parameter for this column, with the text of the value. -/
def Names (r : Resource) (cs : Conditions) (entry : String × String) : Prop :=
  ∃ target ∈ r.targets, ∃ value, value ≠ .null ∧
    cs.filter (fun c => r.isTarget c.column) = [⟨.eq, target.1, .scalar value⟩] ∧
    entry.1 = target.2 ∧ value.HasText entry.2

/-- The table itself, over a source. -/
def table (settings : Settings) (source : Source σ) : Resource → Table σ
  | comments => VideoSite.comments settings source
  | videos => VideoSite.videos settings source
  | channels => VideoSite.channels settings source

/-- What a table declares. -/
def pipeline (settings : Settings) : Resource → Pipeline
  | comments => commentPipeline settings
  | videos => videoPipeline settings
  | channels => channelPipeline settings

/-- What a table looks at before it plans. -/
def check : Resource → Conditions → Except QueryError Unit
  | comments => checkCommentTarget
  | videos => checkMentioned "video_id"
  | channels => checkMentioned "channel_id"

/-- What a table makes of a record that came back. -/
def shapeRecord : Resource → Json → Except QueryError Json
  | comments => threadRecord
  | videos => fun v => .ok (videoRecord v)
  | channels => fun v => .ok (channelRecord v)

/-- The parameters of a table. -/
def parameters (r : Resource) : ParameterDialect :=
  ⟨"youtube", r.targets.map fun target => named target.1 target.2⟩

variable {r : Resource}

theorem isTarget_iff {column : String} :
    r.isTarget column = true ↔ ∃ target ∈ r.targets, target.1 = column := by
  unfold isTarget
  rw [List.any_eq_true]
  simp only [beq_iff_eq]

/-! ### One table for all -/

/-- **The tables are alike**: they look at the conditions, plan, and carry the plan out. -/
theorem select_eq (r : Resource) (source : Source σ) :
    (r.table settings source).select spec =
      liftM (do r.check spec.conditions; (r.pipeline settings).plan spec) >>= fun plan =>
        (r.pipeline settings).runShaped plan source r.shapeRecord := by
  cases r with
  | comments | videos | channels => rfl

theorem pipeline_dialect (r : Resource) :
    (r.pipeline settings).dialect = some (.parameters r.parameters) := by
  cases r with
  | comments | videos | channels => rfl

/-- Exploding a field takes nothing from the filtering. -/
theorem planCapabilities_filter (r : Resource) :
    (r.pipeline settings).planCapabilities.filter = (r.pipeline settings).capabilities.filter := by
  cases r with
  | comments | videos | channels => rfl

/-- Conditions that mention one column alone that can name something. -/
theorem eq_of_mentions {target : String × String}
    (hothers : ∀ other ∈ r.targets, other = target ∨ cs.mentions other.1 = false) :
    ∀ c ∈ cs, r.isTarget c.column = true → c.column = target.1 := by
  intro c hc hcolumn
  -- the column is one that can name something, and the others are not mentioned
  obtain ⟨other, hother, hname⟩ := isTarget_iff.1 hcolumn
  rcases hothers other hother with rfl | hnot
  · exact hname.symm
  · have hmentions : cs.mentions other.1 = true := Conditions.mentions_iff.2 ⟨c, hc, hname.symm⟩
    exact absurd (hmentions.symm.trans hnot) nofun

theorem mentions_of_checkMentioned {column : String} (h : checkMentioned column cs = .ok ()) :
    cs.mentions column = true := by
  unfold checkMentioned at h
  split at h
  case isTrue hmentions => exact hmentions
  case isFalse => exact absurd h nofun

theorem mentions_of_checkCommentTarget (h : checkCommentTarget cs = .ok ()) :
    cs.mentions "video_id" = true ∧ cs.mentions "channel_id" = false ∨
      cs.mentions "video_id" = false ∧ cs.mentions "channel_id" = true := by
  unfold checkCommentTarget at h
  cases hvideo : cs.mentions "video_id" with
  | true =>
    cases hchannel : cs.mentions "channel_id" with
    | true => rw [hvideo, hchannel] at h; exact absurd h nofun
    | false => exact .inl ⟨rfl, rfl⟩
  | false =>
    cases hchannel : cs.mentions "channel_id" with
    | true => exact .inr ⟨rfl, rfl⟩
    | false => rw [hvideo, hchannel] at h; exact absurd h nofun

/-- **What passes is about one column.** -/
theorem exists_target_of_check (h : r.check cs = .ok ()) :
    ∃ target ∈ r.targets, cs.mentions target.1 = true ∧
      ∀ c ∈ cs, r.isTarget c.column = true → c.column = target.1 := by
  have hsingle {target : String × String} :
      ∀ other ∈ [target], other = target ∨ cs.mentions other.1 = false :=
    List.forall_mem_singleton.2 (.inl rfl)
  cases r with
  | videos => exact ⟨_, List.mem_cons_self, mentions_of_checkMentioned h, eq_of_mentions hsingle⟩
  | channels => exact ⟨_, List.mem_cons_self, mentions_of_checkMentioned h, eq_of_mentions hsingle⟩
  | comments =>
    -- one of the two columns is mentioned, and the other is not
    rcases mentions_of_checkCommentTarget h with ⟨hvideo, hchannel⟩ | ⟨hvideo, hchannel⟩
    · refine ⟨_, List.mem_cons_self, hvideo, eq_of_mentions ?_⟩
      exact List.forall_mem_cons.2 ⟨.inl rfl, List.forall_mem_singleton.2 (.inr hchannel)⟩
    · refine ⟨_, List.mem_cons_of_mem _ List.mem_cons_self, hchannel, eq_of_mentions ?_⟩
      exact List.forall_mem_cons.2 ⟨.inr hvideo, hsingle⟩

/-! ### Parameters -/

theorem field?_parameters (r : Resource) : ∀ target ∈ r.targets,
    r.parameters.field? target.1 = some (named target.1 target.2) := by
  cases r with
  | comments => exact List.forall_mem_cons.2 ⟨rfl, List.forall_mem_singleton.2 rfl⟩
  | videos => exact List.forall_mem_singleton.2 rfl
  | channels => exact List.forall_mem_singleton.2 rfl

/-- **The remote side is for the conditions that can name something.** -/
theorem pushes_parameters (c : Condition) :
    (Dialect.parameters r.parameters).pushes c = r.isTarget c.column := by
  -- a field of the dialect is there exactly for a target
  have hfield : (r.parameters.field? c.column).isSome = r.isTarget c.column := by
    rw [Bool.eq_iff_iff, isTarget_iff]
    unfold ParameterDialect.field? parameters
    rw [List.find?_isSome]
    simp only [List.mem_map, exists_exists_and_eq_and, named, beq_iff_eq]
  exact hfield

/-- The one operator of a parameter is the equality. -/
theorem eq_of_mem_operators {op : Operator} {column : String}
    (h : op ∈ (Dialect.parameters r.parameters).operators column) : op = .eq := by
  obtain ⟨f, hfield, hadmits⟩ := ParameterDialect.mem_operators_iff.1 h
  obtain ⟨target, -, rfl⟩ := List.mem_map.1 (List.mem_of_find?_eq_some hfield)
  have hop : op ∈ [Operator.eq] := by
    rw [← List.contains_iff_mem]
    exact (Bool.and_eq_true_iff.1 hadmits).1
  exact List.mem_singleton.1 hop

/-- Items of one name, none of which comes twice, are one. -/
theorem eq_singleton_of_nodup {α : Type} {R : Condition → String × α → Prop}
    {items : List Condition} {entries : List (String × α)} {name : String}
    (h : List.Forall₂ R items entries) (hne : items ≠ [])
    (hname : ∀ entry ∈ entries, entry.1 = name) (hnodup : (entries.map Prod.fst).Nodup) :
    ∃ c entry, items = [c] ∧ entries = [entry] ∧ R c entry := by
  cases h with
  | nil => exact absurd rfl hne
  | @cons c entry items entries hc hrest =>
    cases hrest with
    | nil => exact ⟨c, entry, rfl, rfl, hc⟩
    | @cons c' entry' items entries hc' hrest =>
      -- the first two would have the same name
      have hfirst := hname entry List.mem_cons_self
      have hsecond := hname entry' (List.mem_cons_of_mem _ List.mem_cons_self)
      rw [List.map_cons, List.map_cons, hfirst, hsecond, List.nodup_cons] at hnodup
      exact absurd List.mem_cons_self hnodup.1

/-- **What passes and can be translated names one thing**, and the translation is its entry. -/
theorem names_of_translate {t : Translation} (hcheck : r.check cs = .ok ())
    (hlists : ∀ c ∈ cs, ∀ values, c.operand = .list values → c.op = .isIn ∨ c.op = .notIn)
    (htranslate : translate cs (.parameters r.parameters) = .ok t) :
    ∃ entry, r.Names cs entry ∧ t.pushed = some (.parameters [entry]) := by
  obtain ⟨target, htarget, hmentions, honly⟩ := exists_target_of_check hcheck
  -- each of the naming conditions has an entry, and no two entries have one name
  have haccounts := Translation.accounts_of_translate htranslate
  obtain ⟨entries, hentries, hnodup, hpushed⟩ := haccounts.pushed
  have hoperators := haccounts.operators
  rw [funext pushes_parameters] at hentries hpushed hoperators
  let naming := cs.filter fun c => r.isTarget c.column
  have hne : naming ≠ [] := by
    obtain ⟨c, hc, hcolumn⟩ := Conditions.mentions_iff.1 hmentions
    have hnames : r.isTarget c.column = true := isTarget_iff.2 ⟨target, htarget, hcolumn.symm⟩
    exact List.ne_nil_of_mem (List.mem_filter.2 ⟨hc, hnames⟩)
  -- all of them are on the one column, so all entries have its parameter's name
  have hcolumn (c : Condition) (hc : c ∈ naming) : c.column = target.1 := by
    obtain ⟨hmem, hc⟩ := List.mem_filter.1 hc
    exact honly c hmem hc
  have hname (entry) (hentry : entry ∈ entries) : entry.1 = target.2 := by
    obtain ⟨c, hc, -, f, hfield, hparameter, -⟩ := exists_of_mem_right hentries hentry
    rw [hcolumn c hc, r.field?_parameters target htarget] at hfield
    exact hparameter.trans (congrArg ParameterField.parameter (Option.some.inj hfield).symm)
  -- so there is one entry, and one condition
  obtain ⟨c, entry, hc, rfl, hnull, f, -, -, htext⟩ :=
    eq_singleton_of_nodup hentries hne hname hnodup
  have hmem : c ∈ naming := by
    show c ∈ cs.filter _
    rw [hc]
    exact List.mem_singleton_self c
  have hop : c.op = .eq := eq_of_mem_operators (hoperators c hmem)
  refine ⟨entry, ⟨target, htarget, ?_⟩, by rw [hpushed, if_neg hne]⟩
  obtain ⟨op, column, operand⟩ := c
  obtain rfl : op = .eq := hop
  obtain rfl : column = target.1 := hcolumn _ hmem
  cases operand with
  -- the selection has lists behind memberships alone
  | list values =>
    rcases hlists _ (List.mem_of_mem_filter hmem) values rfl with h | h
    · exact absurd h nofun
    · exact absurd h nofun
  | scalar value =>
    exact ⟨value, fun h => hnull (congrArg Operand.scalar h), hc,
      hname entry List.mem_cons_self, htext⟩

end Resource

/-! ### Selections -/

/-- A list stands behind a membership alone in the conditions of a selection. -/
theorem isMembership_of_ofSelect {select : SelectStatement} (h : Spec.ofSelect select = .ok spec) :
    ∀ c ∈ spec.conditions, ∀ values, c.operand = .list values → c.op = .isIn ∨ c.op = .notIn := by
  unfold Spec.ofSelect at h
  obtain ⟨conditions, hconditions, h⟩ := bind_eq_ok_iff.1 h
  obtain ⟨projection, -, h⟩ := bind_eq_ok_iff.1 h
  obtain ⟨orderBy, -, h⟩ := bind_eq_ok_iff.1 h
  obtain rfl := Except.ok.inj h
  show ∀ c ∈ conditions, _
  cases hselection : select.selection with
  | none =>
    rw [hselection] at hconditions
    obtain rfl := Except.ok.inj hconditions
    exact nofun
  | some e =>
    rw [hselection] at hconditions
    exact isMembership_of_conditionsOf hconditions

/-- **Requests name one thing.** The source of a table is asked with the parameter for what the
conditions of a selection name, and with no other; and if they do not name one thing, the selection
fails and the source is not asked. -/
theorem requests_name_target (r : Resource) {settings : Settings}
    (hfilters : (r.pipeline settings).capabilities.filter = true) {select : SelectStatement}
    {spec : Spec} (hspec : Spec.ofSelect select = .ok spec) (source : Source σ) (s : σ) :
    (∀ call ∈ (((r.table settings source.recording).select spec).run.run (s, [])).2.2,
      ∃ entry, r.Names spec.conditions entry ∧ call.1.filter = some (.parameters [entry])) ∧
    ((∀ entry, ¬ r.Names spec.conditions entry) →
      ∃ e, ((r.table settings source.recording).select spec).run.run (s, []) =
        (.error e, (s, []))) := by
  -- what there is a plan for names one thing, and its request says so
  have hplanned (plan : Plan)
      (h : (do r.check spec.conditions; (r.pipeline settings).plan spec) = .ok plan) :
      ∃ entry, r.Names spec.conditions entry ∧
        plan.remote.filter = some (.parameters [entry]) := by
    obtain ⟨⟨⟩, hcheck, hplan⟩ := bind_eq_ok_iff.1 h
    have hdivided := (Planned.of_plan hplan).divided
    unfold divideConditions at hdivided
    rw [r.pipeline_dialect] at hdivided
    dsimp only at hdivided
    rw [r.planCapabilities_filter, hfilters, if_pos rfl] at hdivided
    exact Resource.names_of_translate hcheck (isMembership_of_ofSelect hspec) hdivided
  rw [r.select_eq, lift_bind_run]
  -- the plan is made before the source is asked
  cases hplan : (do r.check spec.conditions; (r.pipeline settings).plan spec) with
  | error e => exact ⟨nofun, fun _ => ⟨e, rfl⟩⟩
  | ok plan =>
    obtain ⟨entry, hnames, hfilter⟩ := hplanned plan hplan
    refine ⟨fun call hcall => ⟨entry, hnames, ?_⟩, fun hnone => absurd hnames (hnone entry)⟩
    rw [requests_of_runShaped _ _ _ _ _ call hcall]
    exact hfilter

/-- A selection of comments under a filter. -/
def commentsUnder (filter : Expression) : SelectStatement where
  targets := [.wildcard]
  source := some ⟨"comments", none⟩
  selection := some filter
  orderBy := []
  limit := none
  offset := none

/-- The video `v`. -/
def onVideo : Expression := .binary (.column "video_id") .eq (.literal "v")

/-- A source without records. -/
def emptySource : Source Unit := .ofRecords []

/-- The video `v`, of which a user's comments are asked for. -/
def onVideoByUser : Expression :=
  .binary (.binary (.literal "u") .eq (.column "user_id")) .and onVideo

/-- The channel of the number 42. -/
def onChannel : Expression := .binary (.column "channel_id") .eq (.literal (.ofInt 42))

/-- The comments of one user on a video are asked for with the video, and those on a channel with
the text of its number; comments on two videos are not asked for, be it the same one twice. -/
theorem requests_name_target_comments :
    (Resource.comments.pipeline .standard).capabilities.filter = true ∧
    (∀ request ∈ [(onVideoByUser, "videoId", "v"),
        (onChannel, "allThreadsRelatedToChannelId", "42")],
      ∃ spec, Spec.ofSelect (commentsUnder request.1) = .ok spec ∧
        ∃ call ∈ (((Resource.comments.table .standard emptySource.recording).select
            spec).run.run ((), [])).2.2,
          Resource.comments.Names spec.conditions request.2 ∧
            call.1.filter = some (.parameters [request.2])) ∧
    ∃ spec, Spec.ofSelect (commentsUnder (.binary onVideo .and onVideo)) = .ok spec ∧
      (∀ entry, ¬ Resource.comments.Names spec.conditions entry) ∧
      ∃ e, ((Resource.comments.table .standard emptySource.recording).select
          spec).run.run ((), []) = (.error e, ((), [])) := by
  have hfilters : (Resource.comments.pipeline .standard).capabilities.filter = true := rfl
  have hsame {entry entry' : String × String} (h : some (TargetFilter.parameters [entry]) =
      some (.parameters [entry'])) : entry = entry' := by simpa using h
  refine ⟨hfilters, List.forall_mem_cons.2 ⟨?_, List.forall_mem_singleton.2 ?_⟩, ?_⟩
  · have hspec : Spec.ofSelect (commentsUnder onVideoByUser) = .ok _ := rfl
    obtain ⟨entry, hnames, hfilter⟩ :=
      (requests_name_target .comments hfilters hspec emptySource ()).1 _ List.mem_cons_self
    obtain rfl : ("videoId", "v") = entry := hsame hfilter
    exact ⟨_, hspec, _, List.mem_cons_self, hnames, hfilter⟩
  · have hspec : Spec.ofSelect (commentsUnder onChannel) = .ok _ := rfl
    obtain ⟨entry, hnames, hfilter⟩ :=
      (requests_name_target .comments hfilters hspec emptySource ()).1 _ List.mem_cons_self
    obtain rfl : ("allThreadsRelatedToChannelId", "42") = entry := hsame hfilter
    exact ⟨_, hspec, _, List.mem_cons_self, hnames, hfilter⟩
  · have hspec : Spec.ofSelect (commentsUnder (.binary onVideo .and onVideo)) = .ok _ := rfl
    refine ⟨_, hspec, ?_⟩
    have htwo : ∀ entry, ¬ Resource.comments.Names
        [⟨.eq, "video_id", .scalar "v"⟩, ⟨.eq, "video_id", .scalar "v"⟩] entry := by
      -- two conditions are on the column, and a name is for one
      rintro entry ⟨target, -, value, -, hone, -⟩
      have hlen : List.length _ = 1 := congrArg List.length hone
      exact absurd hlen (by decide +kernel)
    exact ⟨htwo, (requests_name_target .comments hfilters hspec emptySource ()).2 htwo⟩

end Pushdown.VideoSite
