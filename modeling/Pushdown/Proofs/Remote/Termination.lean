import Mathlib.Data.Finset.Card
import Mathlib.Data.List.Perm.Subperm
import Pushdown.Proofs.Remote.Requests

/-!
# Collections end

The pages of a collection are driven by the remote side: each says whether there is another, and a
page without records is as good as any. Nothing in a page brings a collection closer to its end but
its token, which has to be a new one. So a collection ends as soon as the tokens do, and this is all
that can be said: a remote side with a new token on every page is asked without an end.

`Collects` is a whole collection, with no number of requests laid down for it, as a relation between
where it starts and what it comes to. Its tokens are those of the requests in their order. A
collection by `fetchFrom` does the same, as far as its allowance goes (`Collects.fetchFrom_run`,
`Collects.calls_fetchFrom`), so there is no allowance in what follows but the one that a page
counter sets.

That there is a whole collection is by induction on the number of tokens that are still new. The
invariant is `Progress.UsesFrom`: the tokens used are distinct, and all among those of the remote
side. With `n` tokens, the start is followed by at most `n` further requests, `fetchAll_ends`.

A remote side may change with every request, and may answer the same token in different ways. It is
not assumed to be a function of the token.
-/

namespace Pushdown

variable {σ : Type} {source : Source σ} {request : RemoteRequest} {tokens : Finset String}
  {p next : Progress} {s s' : σ} {asked : List (Option String)}
  {outcome : Except QueryError (List Json)}

/-! ### Specification -/

/-- **The tokens of a remote side**: whatever it is asked, in whatever state, a page that leads on
does so with one of them. -/
def Source.LeadsOnBy (source : Source σ) (request : RemoteRequest) (tokens : Finset String) :
    Prop :=
  ∀ token s page next, (source request token s).1 = .ok page → page.next = some next →
    next ≠ "" → next ∈ tokens

/-- **A whole collection** from some progress and state on: the tokens it asks with, what it comes
to and the state it leaves behind. -/
inductive Collects (source : Source σ) (request : RemoteRequest) :
    Progress → σ → List (Option String) → Except QueryError (List Json) → σ → Prop where
  /-- An answer ends the collection. -/
  | last {p : Progress} {s : σ} {outcome : Except QueryError (List Json)}
      (hstep : p.step request.maxRecords (source request p.token s).1 = .done outcome) :
      Collects source request p s [p.token] outcome (source request p.token s).2
  /-- An answer leads to a further page. -/
  | further {p next : Progress} {s s' : σ} {asked : List (Option String)}
      {outcome : Except QueryError (List Json)}
      (hstep : p.step request.maxRecords (source request p.token s).1 = .more next)
      (rest : Collects source request next (source request p.token s).2 asked outcome s') :
      Collects source request p s (p.token :: asked) outcome s'

/-! ### Runs within an allowance -/

/-- **An allowance that suffices** makes no difference. -/
theorem Collects.fetchFrom_run (h : Collects source request p s asked outcome s') {allowance : Nat}
    (hlen : asked.length ≤ allowance) (calls : List (RemoteRequest × Option String)) :
    (fetchFrom source.recording request allowance p).run (s, calls) =
      (some outcome, s', calls ++ callsFor request asked) := by
  induction h generalizing allowance calls with
  | @last p s outcome hstep =>
    -- one request at least is allowed, and it is the last or leads on
    obtain ⟨n, rfl⟩ := Nat.exists_eq_add_of_le' hlen
    exact fetchFrom_of_done hstep n calls
  | @further p next s s' asked outcome hstep rest ih =>
    obtain ⟨n, rfl⟩ := Nat.exists_eq_add_of_le' hlen
    have hrest : asked.length ≤ n + asked.length := Nat.le_add_left _ _
    calc (fetchFrom source.recording request (n + asked.length + 1) p).run (s, calls)
        = (fetchFrom source.recording request (n + asked.length) next).run
            ((source request p.token s).2, calls ++ [(request, p.token)]) :=
          fetchFrom_of_more hstep _ calls
      _ = (some outcome, s', calls ++ [(request, p.token)] ++ callsFor request asked) :=
          ih hrest _
      _ = (some outcome, s', calls ++ callsFor request (p.token :: asked)) := by
          rw [← List.append_cons]
          rfl

/-- **Whatever the allowance**, the requests are the first of the whole collection. -/
theorem Collects.calls_fetchFrom (h : Collects source request p s asked outcome s')
    (allowance : Nat) (calls : List (RemoteRequest × Option String)) :
    ((fetchFrom source.recording request allowance p).run (s, calls)).2.2 =
      calls ++ (callsFor request asked).take allowance := by
  -- with no allowance nothing is asked, and otherwise the first request is made
  induction h generalizing allowance calls with
  | @last p s outcome hstep =>
    cases allowance with
    | zero => exact (List.append_nil calls).symm
    | succ n =>
      rw [fetchFrom_of_done hstep]
      show calls ++ [(request, p.token)] = calls ++ (request, p.token) :: [].take n
      rw [List.take_nil]
  | @further p next s s' asked outcome hstep rest ih =>
    cases allowance with
    | zero => exact (List.append_nil calls).symm
    | succ n =>
      rw [fetchFrom_of_more hstep, ih n, List.append_assoc]
      rfl

/-! ### Tokens -/

/-- **The tokens used** are distinct, and among those of the remote side. -/
structure Progress.UsesFrom (tokens : Finset String) (p : Progress) : Prop where
  /-- No token was used twice. -/
  nodup : p.used.Nodup
  /-- They come from the remote side. -/
  mem : ∀ token ∈ p.used, token ∈ tokens

theorem Progress.usesFrom_start : Progress.start.UsesFrom tokens :=
  ⟨List.nodup_nil, nofun⟩

/-- There are no more tokens used than there are. -/
theorem Progress.UsesFrom.length_le (h : p.UsesFrom tokens) : p.used.length ≤ tokens.card := by
  -- distinct and among the tokens, so not more than they are
  have hsub : p.used ⊆ tokens.toList := fun token htoken => Finset.mem_toList.2 (h.mem token htoken)
  have hle := (List.subperm_of_subset h.nodup hsub).length_le
  rwa [Finset.length_toList] at hle

/-- **What leads on is a token that was not used.** -/
theorem Progress.step_eq_more {maxRecords : Option Nat} {answer : Except FetchError Page}
    (h : p.step maxRecords answer = .more next) :
    ∃ page token, answer = .ok page ∧ page.continuation = some token ∧ token ∉ p.used ∧
      next.token = some token ∧ next.used = p.used ++ [token] := by
  -- an answer leads on in one case: a page, with room, whose token is new
  cases answer with
  | error e => exact absurd h nofun
  | ok page =>
    unfold step advance at h
    dsimp only at h
    split at h
    case isTrue => exact absurd h nofun
    case isFalse =>
      split at h
      case h_1 => exact absurd h nofun
      case h_2 token hcontinuation =>
        split at h
        case isTrue => exact absurd h nofun
        case isFalse hnew =>
          obtain rfl := Step.more.inj h
          exact ⟨page, token, rfl, hcontinuation, mt List.contains_iff_mem.2 hnew, rfl, rfl⟩

/-- **One step keeps the invariant**, and the token to go on with is the last of those used. -/
theorem Progress.UsesFrom.step (hsource : source.LeadsOnBy request tokens) (h : p.UsesFrom tokens)
    (hstep : p.step request.maxRecords (source request p.token s).1 = .more next) :
    next.UsesFrom tokens ∧ ∃ token, next.token = some token ∧ next.used = p.used ++ [token] := by
  obtain ⟨page, token, hpage, hcontinuation, hnew, htoken, hused⟩ := Progress.step_eq_more hstep
  obtain ⟨hnext, hsome⟩ := (Option.filter_eq_some_iff).1 hcontinuation
  -- an empty token would lead nowhere
  have hempty : token ≠ "" := by
    rintro rfl
    exact absurd hsome (by decide)
  have hmem : token ∈ tokens := hsource p.token s page token hpage hnext hempty
  refine ⟨⟨?_, ?_⟩, token, htoken, hused⟩
  · rw [hused, ← List.concat_eq_append]
    exact (List.nodup_concat _ _).2 ⟨hnew, h.nodup⟩
  · rw [hused]
    exact List.forall_mem_append.2 ⟨h.mem, List.forall_mem_singleton.2 hmem⟩

/-! ### Whole collections -/

/-- **A collection from any progress on is a whole one**: it asks once more, and then with tokens
that are new and distinct. -/
theorem Progress.UsesFrom.exists_collects (hsource : source.LeadsOnBy request tokens)
    (h : p.UsesFrom tokens) (s : σ) :
    ∃ fresh outcome s', Collects source request p s (p.token :: fresh.map some) outcome s' ∧
      (p.used ++ fresh).Nodup ∧ ∀ token ∈ fresh, token ∈ tokens := by
  -- on the number of tokens that were not used, which every further page makes smaller
  obtain ⟨n, hn⟩ : ∃ n, tokens.card - p.used.length = n := ⟨_, rfl⟩
  induction n using Nat.strong_induction_on generalizing p s with
  | _ n ih =>
    cases hstep : p.step request.maxRecords (source request p.token s).1 with
    | done outcome =>
      refine ⟨[], outcome, _, .last hstep, ?_, nofun⟩
      rw [List.append_nil]
      exact h.nodup
    | more next =>
      obtain ⟨hnext, token, htoken, hused⟩ := h.step hsource hstep
      -- one token more is used, so one fewer is new
      have hlen : next.used.length = p.used.length + 1 := by rw [hused, List.length_append]; rfl
      have hle := hnext.length_le
      obtain ⟨fresh, outcome, s', hrest, hnodup, hmem⟩ :=
        ih (tokens.card - next.used.length) (by omega) hnext (source request p.token s).2 rfl
      refine ⟨token :: fresh, outcome, s', ?_, ?_, ?_⟩
      · rw [htoken] at hrest
        exact .further hstep hrest
      · rwa [List.append_cons, ← hused]
      · refine List.forall_mem_cons.2 ⟨hnext.mem token ?_, hmem⟩
        rw [hused]
        exact List.mem_append_right p.used List.mem_cons_self

/-- **Collections end.** If the tokens of a remote side are `n` at most, a collection is over after
`n + 1` requests at most: one for the first page, and one with each of some distinct tokens. This
is so for every number of requests that it may have, if it is not smaller; and the requests are the
first of these if it is. -/
theorem fetchAll_ends (hsource : source.LeadsOnBy request tokens) (s : σ) :
    ∃ (used : List String) (outcome : Except QueryError (List Json)) (s' : σ),
      used.Nodup ∧ (∀ token ∈ used, token ∈ tokens) ∧
      (none :: used.map some).length ≤ tokens.card + 1 ∧
      (∀ allowance, (none :: used.map some).length ≤ allowance →
        (fetchWithin source.recording request allowance).run (s, []) =
          (some outcome, s', callsFor request (none :: used.map some))) ∧
      ((none :: used.map some).length ≤ pageAllowance →
        (fetchAll source.recording request).run.run (s, []) =
          (outcome, s', callsFor request (none :: used.map some))) ∧
      ((fetchAll source.recording request).run.run (s, [])).2.2 =
        (callsFor request (none :: used.map some)).take pageAllowance := by
  obtain ⟨used, outcome, s', hcollects, hnodup, hmem⟩ :=
    Progress.usesFrom_start.exists_collects hsource s
  -- a progress with these tokens used would satisfy the invariant
  have hlen : used.length ≤ tokens.card := Progress.UsesFrom.length_le (p := ⟨0, none, used, []⟩)
    ⟨hnodup, hmem⟩
  refine ⟨used, outcome, s', hnodup, hmem, ?_, ?_, ?_, ?_⟩
  · rw [List.length_cons, List.length_map]
    exact Nat.succ_le_succ hlen
  · intro allowance hallowance
    exact hcollects.fetchFrom_run hallowance []
  · intro hallowance
    unfold fetchAll fetchWithin
    rw [ExceptT.run_mk, StateT.run_bind, hcollects.fetchFrom_run hallowance []]
    rfl
  · have hcalls := hcollects.calls_fetchFrom pageAllowance []
    unfold fetchAll fetchWithin
    rw [ExceptT.run_mk, StateT.run_bind]
    -- what was asked is the same, whatever becomes of the result
    generalize (fetchFrom source.recording request pageAllowance .start).run (s, []) = run at hcalls
    obtain ⟨result, s'', calls⟩ := run
    cases result with
    | none => exact hcalls
    | some outcome => exact hcalls

/-- Pages without records, whose two tokens lead in a circle; the state counts the requests. -/
def emptyCircle : Source Nat :=
  fun _ token n => (.ok ⟨[], some (if token = some "a" then "b" else "a")⟩, n + 1)

/-- Both tokens are used, and then the first comes back: no allowance changes this any more. -/
theorem fetchAll_ends_emptyCircle :
    emptyCircle.LeadsOnBy (.forTable "t") {"a", "b"} ∧ ∀ allowance, 3 ≤ allowance →
      (fetchWithin emptyCircle.recording (.forTable "t") allowance).run (0, []) =
        (some (.error (.remoteFetch 2 0 (.protocol "continuation token 'a' returned twice"))), 3,
          callsFor (.forTable "t") [none, some "a", some "b"]) := by
  have hsource : emptyCircle.LeadsOnBy (.forTable "t") {"a", "b"} := by
    -- each answer is a page with one of the two tokens
    intro token n page next hpage hnext _
    obtain rfl := Except.ok.inj hpage
    obtain rfl := Option.some.inj hnext
    split
    case isTrue => decide
    case isFalse => decide
  obtain ⟨used, outcome, s', -, -, hlen, hrun, -⟩ := fetchAll_ends hsource 0
  refine ⟨hsource, fun allowance hallowance => ?_⟩
  -- three requests are enough, so that any larger number gives what three give
  rw [hrun allowance (hlen.trans hallowance), ← hrun 3 hlen]
  rfl

end Pushdown
