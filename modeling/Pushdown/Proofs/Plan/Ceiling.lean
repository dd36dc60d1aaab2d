import Pushdown.Proofs.Plan.Planned

/-!
# The ceiling of a remote side

A remote side with a ceiling refuses requests whose limit and offset reach it together. The check at
the start of planning looks at the limit and the offset of the spec, and what the plan sends is
made of these two in all cases but one: a spec with an offset and no limit. Its offset is sent, and
so is the default limit, which is kept below the ceiling by itself but not together with the
offset. `window_lt_ceiling_iff` says that this is the only way to reach the ceiling, and exactly
when it happens.

Both sides are exact: sums are sums of natural numbers. That the ceiling is itself a count matters,
because `cappedSum` stops at the greatest count and a sum that was capped is below no ceiling.
-/

namespace Pushdown

variable {spec : Spec} {schema : Schema} {capabilities : Capabilities} {dialect : Option Dialect}
  {p : Plan} {ceiling : Nat}

/-- A capped sum below a count is the sum. -/
theorem add_lt_of_cappedSum_lt {a b n : Nat} (hn : n ≤ greatestCount) (h : cappedSum a b < n) :
    a + b < n := by
  unfold cappedSum at h
  omega

/-- A capped sum is at most the sum. -/
theorem cappedSum_le_add (a b : Nat) : cappedSum a b ≤ a + b :=
  Nat.min_le_left _ _

/-- **The window of the spec stays below the ceiling**, if the check lets it through. -/
theorem add_lt_of_checkWindow (hcheck : checkWindow spec capabilities = .ok ())
    (hceiling : capabilities.windowCeiling = some ceiling) (hpos : 1 ≤ ceiling)
    (hcount : ceiling ≤ greatestCount) : spec.limit.getD 0 + spec.offset.getD 0 < ceiling := by
  unfold checkWindow at hcheck
  rw [hceiling] at hcheck
  dsimp only at hcheck
  split at hcheck
  case isTrue hnone =>
    -- nothing was asked for, and the ceiling is at least one
    obtain ⟨hlimit, hoffset⟩ := Bool.and_eq_true_iff.1 hnone
    rw [Option.isNone_iff_eq_none.1 hlimit, Option.isNone_iff_eq_none.1 hoffset]
    exact hpos
  case isFalse =>
    split at hcheck
    case isTrue hlt => exact add_lt_of_cappedSum_lt hcount hlt
    case isFalse => exact absurd hcheck (by simp)

/-- The default limit by itself stays below the ceiling. -/
theorem cappedDefault_lt {limit : Nat} (hceiling : capabilities.windowCeiling = some ceiling)
    (hpos : 1 ≤ ceiling) (h : capabilities.cappedDefault = some limit) : limit < ceiling := by
  unfold Capabilities.cappedDefault at h
  rw [hceiling] at h
  -- the default is cut to one below the ceiling
  obtain ⟨default, -, rfl⟩ := Option.map_eq_some_iff.1 h
  dsimp only
  omega

/-- **The default limit behind an offset**: the spec has no limit, its offset is sent, and the
default limit that is sent with it reaches the ceiling together with the offset. -/
def DefaultReachesCeiling (spec : Spec) (capabilities : Capabilities) (p : Plan) (ceiling : Nat) :
    Prop :=
  spec.limit = none ∧ ∃ limit offset, capabilities.cappedDefault = some limit ∧
    p.remote.offset = some offset ∧ ceiling ≤ limit + offset

/-! ### The limit of a request -/

/-- A limit that the window sends is the limit of the request. -/
theorem requestLimit_of_some {residual : Conditions} {limit : Nat}
    (h : (windowSplit spec schema capabilities residual).remoteLimit = some limit) :
    (requestLimits spec schema capabilities residual).1 = some limit := by
  unfold requestLimits neededRecords
  rw [h]
  rfl

/-- Without a limit from the window the default limit is sent, if the remote side takes a limit and
nothing else bounds the records needed. -/
theorem requestLimit_of_none {residual : Conditions}
    (h : (windowSplit spec schema capabilities residual).remoteLimit = none) :
    (requestLimits spec schema capabilities residual).1 =
      if capabilities.limit ∧ (windowPushable spec schema capabilities residual → spec.limit = none)
      then capabilities.cappedDefault else none := by
  unfold requestLimits neededRecords
  rw [h]
  dsimp only
  rcases withDefaultLimit_cases capabilities none
      (if windowPushable spec schema capabilities residual then
        spec.limit.map (cappedSum · (spec.offset.getD 0)) else none) with
    ⟨hneeded, limit, hdefault, hsent⟩ | ⟨hneeded, hsent⟩
  -- no number of records is needed either because the window stays or because there is no limit
  · have hlimit : windowPushable spec schema capabilities residual → spec.limit = none := by
      intro hpush
      rw [if_pos hpush, Option.map_eq_none_iff] at hneeded
      exact hneeded
    rw [hsent, hdefault]
    by_cases hcan : capabilities.limit = true
    · rw [if_pos hcan, if_pos ⟨hcan, hlimit⟩]
    · rw [if_neg hcan, if_neg fun h => hcan h.1]
  · rw [hsent]
    dsimp only
    rcases hneeded with hneeded | hdefault
    · rw [if_neg]
      rintro ⟨-, hlimit⟩
      refine hneeded ?_
      split
      case isTrue hpush => rw [hlimit hpush, Option.map_none]
      case isFalse => rfl
    · rw [hdefault, ite_self]

/-- A request without an offset stays below the ceiling. -/
theorem limit_lt_of_offset_none (hp : Planned spec schema capabilities dialect p)
    (hceiling : capabilities.windowCeiling = some ceiling) (hpos : 1 ≤ ceiling)
    (hcount : ceiling ≤ greatestCount) (hoffset : p.remote.offset = none) :
    p.remote.limit.getD 0 < ceiling := by
  have hspec := add_lt_of_checkWindow hp.window hceiling hpos hcount
  -- what the request has is what the window split leaves to it
  rw [hp.offset] at hoffset
  rw [hp.limit]
  cases hsent : (windowSplit spec schema capabilities p.residual).remoteLimit with
  | none =>
    rw [requestLimit_of_none hsent]
    split
    case isTrue =>
      cases hdefault : capabilities.cappedDefault with
      | none => exact hpos
      | some limit => exact cappedDefault_lt hceiling hpos hdefault
    case isFalse => exact hpos
  | some limit =>
    rw [requestLimit_of_some hsent]
    -- the limit sent is the limit of the spec, perhaps widened by the offset
    have hle : limit ≤ spec.limit.getD 0 + spec.offset.getD 0 := by
      rcases splitWindow_cases spec capabilities
          (windowPushable spec schema capabilities p.residual) with
        ⟨-, hsplit⟩ | ⟨-, -, -, hsplit⟩ | ⟨offset, -, -, -, -, hsplit⟩ |
        ⟨offset, -, -, ho, -, hsplit⟩
      all_goals
        unfold windowSplit at hsent hoffset
        rw [hsplit] at hsent hoffset
      · exact absurd hsent (by simp)
      · -- pushed as it is: the limit alone is what is sent
        rw [show spec.limit = some limit from hsent]
        exact Nat.le_add_right _ _
      · -- an offset would have been sent, and there is none
        exact absurd hoffset (by simp)
      · obtain ⟨given, hgiven, rfl⟩ := Option.map_eq_some_iff.1 hsent
        -- widened: the sum is capped, so at most limit and offset together
        rw [hgiven, ho]
        exact cappedSum_le_add given offset
    exact Nat.lt_of_le_of_lt hle hspec

/-- An offset is sent only together with the limit of the spec, or with the default limit if the
spec has none. -/
theorem limit_of_offset_some (hp : Planned spec schema capabilities dialect p) {offset : Nat}
    (hoffset : p.remote.offset = some offset) :
    spec.offset = some offset ∧
      p.remote.limit = if spec.limit = none then capabilities.cappedDefault else spec.limit := by
  rw [hp.offset] at hoffset
  rw [hp.limit]
  rcases splitWindow_cases spec capabilities
      (windowPushable spec schema capabilities p.residual) with
    ⟨-, hsplit⟩ | ⟨-, -, -, hsplit⟩ | ⟨given, hpush, hlimit, ho, -, hsplit⟩ |
    ⟨given, -, -, -, -, hsplit⟩
  all_goals
    have hsent : (windowSplit spec schema capabilities p.residual).remoteLimit = _ :=
      congrArg WindowSplit.remoteLimit hsplit
    unfold windowSplit at hoffset
    rw [hsplit] at hoffset
  · exact absurd hoffset (by simp)
  · exact absurd hoffset (by simp)
  · -- only the third way of splitting sends an offset
    obtain rfl : given = offset := Option.some.inj hoffset
    refine ⟨ho, ?_⟩
    cases hgiven : spec.limit with
    | none =>
      rw [requestLimit_of_none (hsent.trans hgiven), if_pos ⟨hlimit, fun _ => hgiven⟩, if_pos rfl]
    | some limit => rw [requestLimit_of_some (hsent.trans hgiven), if_neg (by simp)]
  · exact absurd hoffset (by simp)

/-! ### The ceiling -/

/-- **A request stays below the ceiling unless the default limit is sent behind an offset that it
does not fit.** -/
theorem window_lt_ceiling_iff (hplan : plan spec schema capabilities dialect = .ok p)
    (hceiling : capabilities.windowCeiling = some ceiling) (hpos : 1 ≤ ceiling)
    (hcount : ceiling ≤ greatestCount) :
    p.remote.limit.getD 0 + p.remote.offset.getD 0 < ceiling ↔
      ¬ DefaultReachesCeiling spec capabilities p ceiling := by
  have hp := Planned.of_plan hplan
  cases hoffset : p.remote.offset with
  | none =>
    have hlt := limit_lt_of_offset_none hp hceiling hpos hcount hoffset
    refine iff_of_true hlt ?_
    rintro ⟨-, limit, offset, -, hsome, -⟩
    exact absurd (hoffset.symm.trans hsome) (by simp)
  | some offset =>
    obtain ⟨ho, hlimit⟩ := limit_of_offset_some hp hoffset
    have hspec := add_lt_of_checkWindow hp.window hceiling hpos hcount
    unfold DefaultReachesCeiling
    rw [hoffset, hlimit]
    rw [ho] at hspec
    cases hgiven : spec.limit with
    | some limit =>
      -- the window of the spec itself
      rw [hgiven] at hspec
      exact iff_of_true hspec (by simp)
    | none =>
      rw [hgiven] at hspec
      cases hdefault : capabilities.cappedDefault with
      -- no limit at all: the check has bounded the offset
      | none => exact iff_of_true hspec (by simp)
      -- the sum is the default limit and the offset, which is what is denied
      | some limit => simp

/-- An offset of 16000 leaves room for a default limit of 100 below a ceiling of 16384. -/
theorem window_lt_ceiling_at_offset_16000 :
    ∃ p, plan { Spec.everything with offset := some 16000 } ⟨"docs", [.output "id" .text]⟩
        ⟨false, false, true, true, some 16384, some 100⟩ none = .ok p ∧
      p.remote.limit.getD 0 + p.remote.offset.getD 0 < 16384 := by
  have hplan : plan { Spec.everything with offset := some 16000 } ⟨"docs", [.output "id" .text]⟩
      ⟨false, false, true, true, some 16384, some 100⟩ none = .ok _ := rfl
  refine ⟨_, hplan, (window_lt_ceiling_iff hplan rfl (by decide) (by decide)).2 ?_⟩
  rintro ⟨-, limit, offset, hlimit, hoffset, hge⟩
  -- the capped default is 100 and the offset is the one of the spec
  obtain rfl := Option.some.inj hlimit
  obtain rfl := Option.some.inj hoffset
  exact absurd hge (by decide)

/-- An offset of 16383 passes the check, and a limit of 100 is sent with it. -/
theorem default_limit_reaches_ceiling :
    ∃ p, plan { Spec.everything with offset := some 16383 } ⟨"docs", [.output "id" .text]⟩
        ⟨false, false, true, true, some 16384, some 100⟩ none = .ok p ∧
      ¬ p.remote.limit.getD 0 + p.remote.offset.getD 0 < 16384 :=
  ⟨_, rfl, by decide⟩

end Pushdown
