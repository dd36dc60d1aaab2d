import Pushdown.Proofs.Order.StableSort
import Pushdown.Proofs.Plan.Planned
import Pushdown.Proofs.Rows.Filter
import Pushdown.Proofs.Translation.Partition
import Pushdown.Remote.Fetch

/-!
# Plans do not change answers

A spec has a meaning that mentions no plan: of the rows that meet all its conditions, stably sorted
by its order, it skips some, returns some, and takes the columns asked for of each. `IsAnswer` says
so. A plan leaves part of this to the remote side and `Plan.complete` does the rest. The main
statement, `complete_delivered`, is that the two together come to the meaning of the spec, whatever
the remote side can do.

What the remote side has to do for it is in `Delivers`. It keeps the rows that meet the conditions
not left over, sorts them stably by the keys it was sent and cuts the window it was sent; `fetchAll`
collects these and drops what is beyond the number of records needed. How it sorts is left open.

The argument has two halves, which meet at the sorted rows.

* **Rows.** The conditions pushed and the conditions left over are together the conditions of the
  spec (`holdAll_pushed_and_residual`). So the rows that are left when everything but windows has
  been done are stably sorted from the rows that meet the spec: if the remote side sorts, because
  leaving rows out keeps rows stably sorted, and otherwise by the local sort
  (`stablySorted_complete`).
* **Windows.** If anything is left to do before the window, the whole window is local and nothing is
  cut before. Otherwise the remote window, the records needed and the local window compose to the
  window of the spec, in each of the four ways to divide it (`cutWindow_split`). A sum of limit and
  offset that was capped cuts nothing off, because no list is longer than the greatest count.

A default limit is not the spec's wish, and an answer cut by it is not the meaning of the spec; the
statement is about remote sides that have none. It is of use for plans without a search: the
neighbours of a vector are not the rows that meet a condition.
-/

namespace Pushdown

variable {spec : Spec} {schema : Schema} {capabilities : Capabilities} {dialect : Option Dialect}
  {p : Plan} {rows : List Record}

/-! ### What a spec means -/

/-- **An answer to a spec**: the rows that meet its conditions, stably sorted by its order, its
window of them, and of each the columns asked for. -/
def IsAnswer (spec : Spec) (schema : Schema) (rows : List Record) (answer : RowSet) : Prop :=
  ∃ output sorted, resolveProjection schema spec.projection = .ok output ∧
    StablySorted (compareRows (typedKeys schema spec.orderBy))
      (rows.filter (spec.conditions.holdAll schema)) sorted ∧
    answer = ⟨output.map (·.outputName),
      (cutWindow spec.offset spec.limit sorted).map (projectRow output)⟩

/-- The conditions that were left to the remote side. -/
def Plan.pushed (p : Plan) (spec : Spec) : Conditions :=
  spec.conditions.filter (· ∉ p.residual)

/-- **What arrives for a plan**: of the rows that meet the conditions pushed, stably sorted by the
keys sent, the window sent, as far as the collection of the records keeps it. -/
def Delivers (spec : Spec) (schema : Schema) (p : Plan) (rows delivered : List Record) : Prop :=
  ∃ sorted, StablySorted (compareRows (typedKeys schema p.remote.sort))
      (rows.filter ((p.pushed spec).holdAll schema)) sorted ∧
    (fetchAll (Source.ofRecords
      ((cutWindow p.remote.offset p.remote.limit sorted).map .object)) p.remote).run () =
      (.ok (delivered.map .object), ())

/-! ### Conditions -/

/-- What a plan leaves over is among the conditions of its spec. -/
theorem Planned.residual_subset (hp : Planned spec schema capabilities dialect p) :
    p.residual ⊆ spec.conditions := by
  have hdivided := hp.divided
  unfold divideConditions at hdivided
  -- only a translation divides them, otherwise everything is left over
  split at hdivided
  · split at hdivided
    · exact translate_residual_subset hdivided
    · obtain ⟨-, h, -⟩ := Translation.mk.inj (Except.ok.inj hdivided)
      exact h ▸ List.Subset.refl _
  · obtain ⟨-, h, -⟩ := Translation.mk.inj (Except.ok.inj hdivided)
    exact h ▸ List.Subset.refl _

/-- **A row meets the spec exactly if it meets the conditions pushed and those left over.** -/
theorem holdAll_pushed_and_residual (hsub : p.residual ⊆ spec.conditions) (row : Record) :
    (p.residual.holdAll schema row && (p.pushed spec).holdAll schema row) =
      spec.conditions.holdAll schema row := by
  rw [Bool.eq_iff_iff, Bool.and_eq_true]
  unfold Conditions.holdAll Plan.pushed
  simp only [List.all_eq_true, List.mem_filter, decide_eq_true_eq]
  constructor
  · rintro ⟨hresidual, hpushed⟩ c hc
    -- a condition is pushed or left over, and there is no third
    by_cases hmem : c ∈ p.residual
    · exact hresidual c hmem
    · exact hpushed c ⟨hc, hmem⟩
  · exact fun h => ⟨fun c hc => h c (hsub hc), fun c hc => h c hc.1⟩

/-! ### Windows -/

section Windows

variable {α : Type} {items : List α}

@[simp] theorem cutWindow_none_none (items : List α) : cutWindow none none items = items := rfl

theorem cutWindow_none_some (n : Nat) (items : List α) :
    cutWindow none (some n) items = items.take n := rfl

theorem cutWindow_some (offset : Option Nat) (n : Nat) (items : List α) :
    cutWindow offset (some n) items = (items.drop (offset.getD 0)).take n := rfl

/-- A capped sum is as good as the sum: no list is longer than the greatest count. -/
theorem take_cappedSum (hlen : items.length ≤ greatestCount) (a b : Nat) :
    items.take (cappedSum a b) = items.take (a + b) := by
  unfold cappedSum
  rcases Nat.le_total (a + b) greatestCount with h | h
  · rw [Nat.min_eq_left h]
  · -- the greatest count is never reached, so both cuts leave the list as it is
    rw [Nat.min_eq_right h, List.take_of_length_le hlen, List.take_of_length_le (hlen.trans h)]

/-- A window can be cut from the items that it reaches. -/
theorem cutWindow_take (hlen : items.length ≤ greatestCount) (offset : Option Nat) (n : Nat) :
    cutWindow offset (some n) (items.take (cappedSum n (offset.getD 0))) =
      cutWindow offset (some n) items := by
  rw [take_cappedSum hlen, cutWindow_some, cutWindow_some, List.drop_take, Nat.add_sub_cancel,
    List.take_take, Nat.min_self]

/-- **The parts of a window compose to the window**, where it can be left to the remote side. -/
theorem cutWindow_split (spec : Spec) (capabilities : Capabilities)
    (hlen : items.length ≤ greatestCount) :
    cutWindow (splitWindow spec capabilities true).localOffset
        (splitWindow spec capabilities true).localLimit
      (cutWindow none (neededRecords spec true (splitWindow spec capabilities true))
        (cutWindow (splitWindow spec capabilities true).remoteOffset
          (splitWindow spec capabilities true).remoteLimit items)) =
      cutWindow spec.offset spec.limit items := by
  -- all local; sent without an offset; sent with one; sent widened by one that stays
  rcases splitWindow_cases spec capabilities true with
    ⟨-, hsplit⟩ | ⟨-, -, ho, hsplit⟩ | ⟨offset, -, -, ho, -, hsplit⟩ | ⟨offset, -, -, ho, -, hsplit⟩
  all_goals
    rw [hsplit]
    unfold neededRecords
    cases hlimit : spec.limit
  -- without a limit nothing is cut off
  case inl.none => rfl
  case inr.inl.none | inr.inr.inl.none | inr.inr.inr.none =>
    rw [ho]
    rfl
  case inl.some n =>
    -- the window stays, and as many records are needed as it reaches
    exact cutWindow_take hlen spec.offset n
  case inr.inl.some n | inr.inr.inl.some n =>
    -- the window goes, and the records needed cut it a second time
    dsimp only
    rw [ho, cutWindow_none_none, cutWindow_none_some, cutWindow_some, List.take_take, Nat.min_self]
  case inr.inr.inr.some n =>
    -- the remote side is asked for all that the window reaches
    dsimp only
    rw [ho, Option.map_some, cutWindow_none_some, cutWindow_none_some, List.take_take,
      Nat.min_self]
    exact cutWindow_take hlen (some offset) n

end Windows

/-! ### What arrives -/

/-- The only page of a source is collected up to the number of records needed. -/
theorem fetchFrom_ofRecords {σ : Type} (records : List Json) (request : RemoteRequest)
    (allowance : Nat) (s : σ) :
    fetchFrom (Source.ofRecords records) request (allowance + 1) .start s =
      (some (.ok (cutWindow none request.maxRecords records)), s) := by
  have hstep : Progress.start.step request.maxRecords (.ok (.last records)) =
      .done (.ok (cutWindow none request.maxRecords records)) := by
    unfold Progress.step Progress.advance
    cases request.maxRecords with
    | none => rfl
    | some most =>
      by_cases hle : most ≤ records.length
      · -- there are enough, and those beyond are dropped
        simp [Progress.start, Page.last, enough, cutWindow, hle]
      · -- there are too few, and no further page
        have htake : records.take most = records := List.take_of_length_le (Nat.le_of_not_le hle)
        simp [Progress.start, Page.last, Page.continuation, enough, cutWindow, hle, htake]
  unfold fetchFrom Source.ofRecords
  simp only [pure_bind]
  rw [hstep]
  rfl

theorem fetchAll_ofRecords {σ : Type} (records : List Json) (request : RemoteRequest) (s : σ) :
    (fetchAll (Source.ofRecords records) request).run s =
      (.ok (cutWindow none request.maxRecords records), s) := by
  have hfetch : fetchWithin (Source.ofRecords records) request pageAllowance s = _ :=
    fetchFrom_ofRecords records request 18446744073709551615 s
  change (fetchAll (Source.ofRecords records) request : StateM σ _) s = _
  simp only [fetchAll, ExceptT.mk, bind, StateT.bind, hfetch]
  rfl

/-- **What arrives** are the rows of the window sent, no more of them than are needed. -/
theorem delivers_iff {delivered : List Record} : Delivers spec schema p rows delivered ↔
    ∃ sorted, StablySorted (compareRows (typedKeys schema p.remote.sort))
      (rows.filter ((p.pushed spec).holdAll schema)) sorted ∧
    cutWindow none p.remote.maxRecords (cutWindow p.remote.offset p.remote.limit sorted) =
      delivered := by
  have hmap (window : List Record) : cutWindow none p.remote.maxRecords (window.map Json.object) =
      (cutWindow none p.remote.maxRecords window).map .object := by
    cases p.remote.maxRecords with
    | none => rfl
    | some most => exact List.map_take.symm
  have hinj : Function.Injective (List.map Json.object) :=
    List.map_injective_iff.2 fun _ _ => Json.object.inj
  refine exists_congr fun sorted => and_congr_right fun _ => ?_
  -- the page that arrives is the whole of what the remote side has, cut to what is needed
  rw [fetchAll_ofRecords, hmap]
  constructor
  · intro h
    exact hinj (Except.ok.inj (Prod.mk.inj h).1)
  · rintro rfl
    rfl

/-! ### Rows -/

/-- **Before the window**, what is left of the delivered rows is stably sorted from the rows that
meet the spec. -/
theorem stablySorted_complete (hp : Planned spec schema capabilities dialect p)
    (hlawful : LawfulOn (compareRows (typedKeys schema spec.orderBy)) {row | row ∈ rows})
    {sorted : List Record} (hsorted : StablySorted (compareRows (typedKeys schema p.remote.sort))
      (rows.filter ((p.pushed spec).holdAll schema)) sorted) :
    StablySorted (compareRows (typedKeys schema spec.orderBy))
      (rows.filter (spec.conditions.holdAll schema))
      (sortLocally schema p.localSort (sorted.filter (p.residual.holdAll schema))) := by
  have hkept := hsorted.filter (p.residual.holdAll schema)
  -- pushed conditions and conditions left over are together those of the spec
  rw [List.filter_filter] at hkept
  simp only [holdAll_pushed_and_residual hp.residual_subset] at hkept
  rw [hp.sort] at hkept
  rw [hp.localSort]
  cases hpush : sortPushable schema capabilities spec.orderBy with
  | true =>
    -- the remote side has sorted, and the residual conditions only leave rows out
    rw [hpush, if_pos rfl] at hkept
    exact hkept
  | false =>
    rw [hpush, if_neg (by simp)] at hkept
    rw [if_neg (by simp), (stablySorted_of_eq_iff fun _ _ => rfl).1 hkept]
    exact sortLocally_stablySorted (hlawful.filter _)

/-- A window that can be left to the remote side has nothing to do before it. -/
theorem nothing_before_pushable (hp : Planned spec schema capabilities dialect p)
    (hpush : windowPushable spec schema capabilities p.residual = true) :
    p.residual = [] ∧ p.localSort = [] := by
  obtain ⟨hresidual, horder⟩ := Bool.and_eq_true_iff.1 hpush
  refine ⟨List.isEmpty_iff.1 hresidual, ?_⟩
  rw [hp.localSort]
  split
  case isTrue => rfl
  case isFalse hsort =>
    -- either nothing is sorted, or the remote side has sorted it
    rcases Bool.or_eq_true_iff.1 horder with hempty | hsorted
    · exact List.isEmpty_iff.1 hempty
    · exact absurd hsorted hsort

/-- Without a default limit the request is bounded by the window alone. -/
theorem requestLimits_of_no_default {residual : Conditions}
    (hdefault : capabilities.defaultLimit = none) :
    requestLimits spec schema capabilities residual =
      ((windowSplit spec schema capabilities residual).remoteLimit,
        neededRecords spec (windowPushable spec schema capabilities residual)
          (windowSplit spec schema capabilities residual)) := by
  have hcapped : capabilities.cappedDefault = none := by
    unfold Capabilities.cappedDefault
    rw [hdefault, Option.map_none]
  unfold requestLimits
  rcases withDefaultLimit_cases capabilities
      (windowSplit spec schema capabilities residual).remoteLimit
      (neededRecords spec (windowPushable spec schema capabilities residual)
        (windowSplit spec schema capabilities residual)) with ⟨-, limit, hsome, -⟩ | ⟨-, hsame⟩
  · -- there is no default limit to use
    exact absurd (hcapped.symm.trans hsome) (by simp)
  · exact hsame

/-- **The windows of request and plan**, around whatever the plan does in between, compose to the
window of the spec. -/
theorem cutWindow_complete (hp : Planned spec schema capabilities dialect p)
    (hdefault : capabilities.defaultLimit = none) {sorted : List Record}
    (hlen : sorted.length ≤ greatestCount) :
    cutWindow p.localOffset p.localLimit (sortLocally schema p.localSort
        ((cutWindow none p.remote.maxRecords
          (cutWindow p.remote.offset p.remote.limit sorted)).filter (p.residual.holdAll schema))) =
      cutWindow spec.offset spec.limit
        (sortLocally schema p.localSort (sorted.filter (p.residual.holdAll schema))) := by
  rw [hp.localOffset, hp.localLimit, hp.offset, hp.limit, hp.maxRecords,
    requestLimits_of_no_default hdefault]
  unfold windowSplit
  cases hpush : windowPushable spec schema capabilities p.residual with
  | true =>
    obtain ⟨hresidual, hsort⟩ := nothing_before_pushable hp hpush
    have hkeep (l : List Record) :
        sortLocally schema p.localSort (l.filter (p.residual.holdAll schema)) = l := by
      rw [hsort, hresidual]
      exact List.filter_eq_self.2 fun _ _ => rfl
    rw [hkeep, hkeep]
    exact cutWindow_split spec capabilities hlen
  | false =>
    -- the whole window is local, and nothing is cut before
    rfl

/-! ### Answers -/

/-- **The meaning of a spec is one answer**, where its order compares the rows lawfully. -/
theorem isAnswer_iff_eq {output : List ProjectedColumn} {sorted : List Record}
    (hlawful : LawfulOn (compareRows (typedKeys schema spec.orderBy)) {row | row ∈ rows})
    (houtput : resolveProjection schema spec.projection = .ok output)
    (hsorted : StablySorted (compareRows (typedKeys schema spec.orderBy))
      (rows.filter (spec.conditions.holdAll schema)) sorted) (answer : RowSet) :
    IsAnswer spec schema rows answer ↔ answer = ⟨output.map (·.outputName),
      (cutWindow spec.offset spec.limit sorted).map (projectRow output)⟩ := by
  constructor
  · rintro ⟨output', sorted', houtput', hsorted', rfl⟩
    obtain rfl := hsorted'.unique (hlawful.filter _) hsorted
    obtain rfl := Except.ok.inj (houtput'.symm.trans houtput)
    rfl
  · rintro rfl
    exact ⟨output, sorted, houtput, hsorted, rfl⟩

/-- What the remote side is sent to sort by compares the rows lawfully, if the order does. -/
theorem lawfulOn_remote_sort (hp : Planned spec schema capabilities dialect p)
    (hlawful : LawfulOn (compareRows (typedKeys schema spec.orderBy)) {row | row ∈ rows}) :
    LawfulOn (compareRows (typedKeys schema p.remote.sort)) {row | row ∈ rows} := by
  rw [hp.sort]
  split
  case isTrue => exact hlawful
  case isFalse => exact LawfulOn.of_eq fun _ _ _ _ => rfl

/-- **A plan does not change the answer.** Whatever a remote side without a default limit can do,
the rows that it delivers for a plan are completed to the one answer that the spec has. -/
theorem complete_delivered (hplan : plan spec schema capabilities dialect = .ok p)
    (hdefault : capabilities.defaultLimit = none)
    (hcompile : ∀ c ∈ spec.conditions,
      ∃ compiled, CompiledCondition.compile schema c = .ok compiled)
    (hlawful : LawfulOn (compareRows (typedKeys schema spec.orderBy)) {row | row ∈ rows})
    (hlen : rows.length ≤ greatestCount) :
    ∃ answer, (∀ t, IsAnswer spec schema rows t ↔ t = answer) ∧
      (∃ delivered, Delivers spec schema p rows delivered) ∧
      ∀ delivered, Delivers spec schema p rows delivered →
        p.complete schema delivered = .ok answer := by
  have hp := Planned.of_plan hplan
  obtain ⟨compiled, hcompiled⟩ := exists_compileAll fun c hc => hcompile c (hp.residual_subset hc)
  -- the meaning of the spec exists because the local sort would find it without any remote side
  have hlocal := sortLocally_stablySorted (hlawful.filter (spec.conditions.holdAll schema))
  refine ⟨_, isAnswer_iff_eq hlawful hp.output hlocal, ?_, ?_⟩
  · exact ⟨_, delivers_iff.2 ⟨_, sortLocally_stablySorted
      ((lawfulOn_remote_sort hp hlawful).filter _), rfl⟩⟩
  · intro delivered hdelivered
    obtain ⟨sorted, hsorted, rfl⟩ := delivers_iff.1 hdelivered
    have hsortedLen : sorted.length ≤ greatestCount := by
      rw [hsorted.perm.length_eq]
      exact (List.length_filter_le _ rows).trans hlen
    -- after the local part the rows are the meaning of the spec, so the answer is that one
    have hcomplete := stablySorted_complete hp hlawful hsorted
    unfold Plan.complete
    rw [hcompiled]
    simp only [bind, Except.bind, pure, Except.pure]
    rw [funext (meetsAll_eq_holdAll hcompiled), cutWindow_complete hp hdefault hsortedLen]
    have hanswer := (isAnswer_iff_eq hlawful hp.output hlocal _).1
      ⟨p.output, _, hp.output, hcomplete, rfl⟩
    exact congrArg Except.ok hanswer

/-! ### An instance -/

/-- A table of articles. -/
def articles : Schema := ⟨"articles", [.output "title" .text, .output "metadata" .json]⟩

/-- An article with a kind in its documents. -/
def article (title kind : String) : Record :=
  [("title", .string title), ("metadata", .object [("kind", .string kind)])]

/-- Some articles, in no order. -/
def someArticles : List Record :=
  [article "d" "news", article "c" "blog", article "a" "news", article "b" "news"]

/-- The last news but one from `b` on. -/
def lastNewsButOne : Spec :=
  ⟨none, .all, [⟨.eq, "metadata.kind", .scalar "news"⟩, ⟨.ge, "title", .scalar "b"⟩],
    [⟨"title", .descending⟩], some 1, some 1⟩

/-- A side that filters by kind and can sort but is not to cut leaves the title and the window over.
-/
theorem complete_delivered_lastNewsButOne :
    ∃ p, plan lastNewsButOne articles ⟨true, true, true, false, none, none⟩
        (some (.expression ⟨"store", "metadata", "search"⟩)) = .ok p ∧
      p.pushed lastNewsButOne = [⟨.eq, "metadata.kind", .scalar "news"⟩] ∧
      p.residual = [⟨.ge, "title", .scalar "b"⟩] ∧
      ∀ delivered, Delivers lastNewsButOne articles p someArticles delivered →
        p.complete articles delivered = .ok ⟨["title", "metadata"], [article "b" "news"]⟩ := by
  have hplan : plan lastNewsButOne articles ⟨true, true, true, false, none, none⟩
      (some (.expression ⟨"store", "metadata", "search"⟩)) = .ok _ := rfl
  have hcompile : ∀ c ∈ lastNewsButOne.conditions,
      ∃ compiled, CompiledCondition.compile articles c = .ok compiled :=
    List.forall_mem_cons.2 ⟨⟨_, rfl⟩, List.forall_mem_cons.2 ⟨⟨_, rfl⟩, List.forall_mem_nil _⟩⟩
  have hlawful : LawfulOn (compareRows (typedKeys articles lastNewsButOne.orderBy))
      {row | row ∈ someArticles} := by
    constructor
    · change ∀ a ∈ someArticles, ∀ b ∈ someArticles, _
      decide +kernel
    · change ∀ a ∈ someArticles, ∀ b ∈ someArticles, ∀ c ∈ someArticles, _
      decide +kernel
  obtain ⟨answer, hanswer, -, hcomplete⟩ :=
    complete_delivered hplan rfl hcompile hlawful (by decide)
  have heq : ⟨["title", "metadata"], [article "b" "news"]⟩ = answer :=
    (hanswer _).1 ⟨_, _, rfl, sortLocally_stablySorted (hlawful.filter _), rfl⟩
  refine ⟨_, hplan, by decide, rfl, ?_⟩
  rw [heq]
  exact hcomplete

end Pushdown
