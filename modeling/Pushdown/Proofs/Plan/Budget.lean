import Pushdown.Proofs.Plan.Answer
import Pushdown.Proofs.Rows.Unification
import Pushdown.Remote.Pipeline

/-!
# The number of records needed, where a field is exploded

A plan can say how many records are needed, and a collection stops when it holds as many. Where a
field is exploded this number looks wrong: it is the limit and the offset of the spec together,
which count rows, and it is applied to records, of which one may become several rows. The main
statement, `finish_cutWindow_maxRecords`, is that it does no harm, and that the request itself has
neither limit nor offset.

Three facts come together. The plan has such a number only if nothing is left to do before the
window, so that the rows of the records are cut as they stand (`complete_of_nothing_left`). No
record becomes no row, so the first `n` records hold the first `n` rows (`Shape.unify_take`). And a
window does not look at rows behind its end (`cutWindow_eq_of_take_eq`). The number is a sum that
stays at the greatest count where it would exceed it, and no more records than that are assumed.
-/

namespace Pushdown

variable {spec : Spec} {schema : Schema} {capabilities : Capabilities} {plan : Plan}

/-! ### Windows and plans -/

/-- A window reaches as far as its limit and its offset together. -/
theorem cutWindow_eq_of_take_eq {α : Type} {items items' : List α} {offset : Option Nat} {n : Nat}
    (h : items.take (n + offset.getD 0) = items'.take (n + offset.getD 0)) :
    cutWindow offset (some n) items = cutWindow offset (some n) items' := by
  have hdrop := congrArg (List.drop (offset.getD 0)) h
  rwa [List.drop_take, List.drop_take, Nat.add_sub_cancel] at hdrop

/-- A plan with no condition and no order left cuts its window from the rows as they come. -/
theorem complete_of_nothing_left (hresidual : plan.residual = []) (hsort : plan.localSort = [])
    (rows : List Record) : plan.complete schema rows = .ok ⟨plan.outputNames,
      (cutWindow plan.localOffset plan.localLimit rows).map (projectRow plan.output)⟩ := by
  have hcompile : compileAll schema [] = .ok [] := rfl
  -- no condition keeps every row
  have hkeep : rows.filter (meetsAll []) = rows := List.filter_eq_self.2 fun _ _ => rfl
  unfold Plan.complete
  rw [hresidual, hsort, hcompile]
  simp only [bind, Except.bind, pure, Except.pure]
  rw [hkeep]
  rfl

/-! ### Exploded fields -/

namespace Pipeline

variable {p : Pipeline} {payloads : List Json} {rows : List Record}

/-- A plan for an exploded field is one for a remote side that takes no limit. -/
theorem planned_of_explode (hplan : p.plan spec = .ok plan) (hexplode : p.explode.isSome = true) :
    Planned spec p.schema { p.capabilities with limit := false, offset := false } p.dialect
      plan := by
  -- planning an exploded field only switches limit and offset off
  unfold Pipeline.plan planCapabilities at hplan
  rw [if_pos hexplode] at hplan
  exact Planned.of_plan hplan

/-- **The window stays where a field is exploded**, and the number of records needed is limit and
offset of the spec together, or none. There is one only if nothing else is left to do. -/
theorem window_of_explode (hexplode : p.explode.isSome = true)
    (hdefault : p.capabilities.defaultLimit = none) (hplan : p.plan spec = .ok plan) :
    plan.remote.limit = none ∧ plan.remote.offset = none ∧
      plan.localLimit = spec.limit ∧ plan.localOffset = spec.offset ∧
      (plan.remote.maxRecords = none ∨ ∃ n, spec.limit = some n ∧
        plan.remote.maxRecords = some (cappedSum n (spec.offset.getD 0)) ∧
        plan.residual = [] ∧ plan.localSort = []) := by
  have hp := planned_of_explode hplan hexplode
  let capabilities := { p.capabilities with limit := false, offset := false }
  have hsplit : windowSplit spec p.schema capabilities plan.residual = _ :=
    windowSplit_of_no_limit rfl plan.residual
  have hlimits : requestLimits spec p.schema capabilities plan.residual = _ :=
    requestLimits_of_no_default hdefault
  -- neither split nor number depends on anything but the spec now
  rw [hsplit] at hlimits
  refine ⟨by rw [hp.limit, hlimits], by rw [hp.offset, hsplit], by rw [hp.localLimit, hsplit],
    by rw [hp.localOffset, hsplit], ?_⟩
  rw [hp.maxRecords, hlimits]
  unfold neededRecords
  dsimp only
  -- the number is known only where the window could have been pushed
  split
  case isFalse => exact .inl rfl
  case isTrue hpush =>
    cases spec.limit with
    | none => exact .inl rfl
    | some n => exact .inr ⟨n, rfl, rfl, nothing_before_pushable hp hpush⟩

/-- **An exploded field's records, cut to the number needed, give the same answer.** The request has
no limit and no offset, and an answer finished from the records needed is finished from all of them,
although limit and offset of the spec count rows. -/
theorem finish_cutWindow_maxRecords (hexplode : p.explode.isSome = true)
    (hdefault : p.capabilities.defaultLimit = none) (hplan : p.plan spec = .ok plan)
    (hunify : p.shape.unify payloads = .ok rows) (hlen : payloads.length ≤ greatestCount) :
    plan.remote.limit = none ∧ plan.remote.offset = none ∧
      p.finish plan (cutWindow none plan.remote.maxRecords payloads) = p.finish plan payloads := by
  obtain ⟨hlimit, hoffset, hlocalLimit, hlocalOffset, hmax⟩ :=
    window_of_explode hexplode hdefault hplan
  refine ⟨hlimit, hoffset, ?_⟩
  rcases hmax with hmax | ⟨n, hn, hmax, hresidual, hsort⟩
  · -- without a number nothing is cut
    rw [hmax, cutWindow_none_none]
  · -- as many records as the window reaches hold the rows that it reaches
    obtain ⟨first, hfirst, htake⟩ := Shape.unify_take hunify (n + spec.offset.getD 0)
    have hwindow : cutWindow plan.localOffset plan.localLimit first =
        cutWindow plan.localOffset plan.localLimit rows := by
      rw [hlocalOffset, hlocalLimit, hn]
      exact cutWindow_eq_of_take_eq htake
    have hcomplete : plan.complete p.schema first = plan.complete p.schema rows := by
      rw [complete_of_nothing_left hresidual hsort, complete_of_nothing_left hresidual hsort,
        hwindow]
    -- the number is capped, but no more records than the cap are there
    rw [hmax, cutWindow_none_some, take_cappedSum hlen]
    unfold finish
    rw [hfirst, hunify]
    exact hcomplete

/-! ### An instance -/

/-- Threads with their replies. -/
def threads : Pipeline where
  schema := ⟨"threads", [.output "id" .text, .output "replies.text" .text]⟩
  capabilities := ⟨true, true, true, true, some 1000, none⟩
  dialect := none
  explode := some "replies"

/-- A thread with the texts of its replies. -/
def thread (id : String) (replies : List String) : Json :=
  .object [("id", .string id), ("replies", .array (replies.map fun t => .object [("text", t)]))]

/-- Some threads, one of them without replies. -/
def someThreads : List Json :=
  [thread "s" ["a", "b"], thread "t" [], thread "u" ["c"], thread "v" ["d", "e"]]

/-- Two rows are returned behind one that is skipped, so three of the threads are needed; the rows
are those of the first two. -/
theorem finish_cutWindow_maxRecords_someThreads :
    ∃ plan, threads.plan ⟨none, .all, [], [], some 2, some 1⟩ = .ok plan ∧
      plan.remote.limit = none ∧ plan.remote.offset = none ∧
      cutWindow none plan.remote.maxRecords someThreads = someThreads.take 3 ∧
      threads.finish plan (someThreads.take 3) = .ok ⟨["id", "replies.text"],
        [[("id", "s"), ("replies.text", "b")], [("id", "t"), ("replies.text", .null)]]⟩ := by
  have hplan : threads.plan ⟨none, .all, [], [], some 2, some 1⟩ = .ok _ := rfl
  have hunify : threads.shape.unify someThreads = .ok _ := rfl
  obtain ⟨hlimit, hoffset, hfinish⟩ :=
    finish_cutWindow_maxRecords rfl rfl hplan hunify (by decide)
  exact ⟨_, hplan, hlimit, hoffset, rfl, hfinish.trans rfl⟩

end Pipeline

end Pushdown
