import Pushdown.Proofs.Store.Preservation

/-!
# What a remote side is asked for

A remote side acts on a state of its own, so what it has been asked for cannot be read off. A
`Source.recording` is the same remote side, which writes down every request with its token, in the
order in which they come.

A plan holds one request. All pages that are collected for it are asked for with this request and
differ in their tokens alone, whatever the remote side answers (`requests_of_runShaped`). So what a
collection has asked for is a list of tokens (`callsFor`), which grows by one with every page
(`fetchFrom_of_done`, `fetchFrom_of_more`).
-/

namespace Pushdown

variable {σ : Type}

/-- **A remote side that writes down what it is asked for.** -/
def Source.recording (source : Source σ) : Source (σ × List (RemoteRequest × Option String)) :=
  fun request token s =>
    ((source request token s.1).1, (source request token s.1).2, s.2 ++ [(request, token)])

/-- The record of a request for pages with these tokens. -/
def callsFor (request : RemoteRequest) (tokens : List (Option String)) :
    List (RemoteRequest × Option String) :=
  tokens.map (Prod.mk request)

theorem callsFor_concat {request : RemoteRequest} (tokens : List (Option String))
    (token : Option String) :
    callsFor request (tokens ++ [token]) = callsFor request tokens ++ [(request, token)] :=
  List.map_append

/-! ### One request -/

section

variable {source : Source σ} {request : RemoteRequest} {p next : Progress} {s : σ}
  {outcome : Except QueryError (List Json)}

/-- An answer may end the collection. -/
theorem fetchFrom_run_of_done
    (hstep : p.step request.maxRecords (source request p.token s).1 = .done outcome)
    (allowance : Nat) :
    (fetchFrom source request (allowance + 1) p).run s =
      (some outcome, (source request p.token s).2) := by
  rw [fetchFrom, StateT.run_bind]
  dsimp only [bind, StateT.run]
  rw [hstep]
  rfl

/-- An answer may lead to a further page. -/
theorem fetchFrom_run_of_more
    (hstep : p.step request.maxRecords (source request p.token s).1 = .more next)
    (allowance : Nat) :
    (fetchFrom source request (allowance + 1) p).run s =
      (fetchFrom source request allowance next).run (source request p.token s).2 := by
  rw [fetchFrom, StateT.run_bind]
  dsimp only [bind, StateT.run]
  rw [hstep]

/-- A request is written down, and its answer may end the collection. -/
theorem fetchFrom_of_done
    (hstep : p.step request.maxRecords (source request p.token s).1 = .done outcome)
    (allowance : Nat) (calls : List (RemoteRequest × Option String)) :
    (fetchFrom source.recording request (allowance + 1) p).run (s, calls) =
      (some outcome, (source request p.token s).2, calls ++ [(request, p.token)]) := by
  -- the answer is that of the remote side that writes nothing down
  have hrecorded : p.step request.maxRecords (source.recording request p.token (s, calls)).1 =
      .done outcome := hstep
  exact fetchFrom_run_of_done hrecorded allowance

/-- A request is written down, and its answer may lead to a further page. -/
theorem fetchFrom_of_more
    (hstep : p.step request.maxRecords (source request p.token s).1 = .more next)
    (allowance : Nat) (calls : List (RemoteRequest × Option String)) :
    (fetchFrom source.recording request (allowance + 1) p).run (s, calls) =
      (fetchFrom source.recording request allowance next).run
        ((source request p.token s).2, calls ++ [(request, p.token)]) := by
  -- and so is what the answer leads to
  have hrecorded : p.step request.maxRecords (source.recording request p.token (s, calls)).1 =
      .more next := hstep
  exact fetchFrom_run_of_more hrecorded allowance

end

/-! ### All requests -/

/-- **A record that stays one of a single request**, if it was one. -/
def StaysOn (request : RemoteRequest) (x y : σ × List (RemoteRequest × Option String)) : Prop :=
  (∀ call ∈ x.2, call.1 = request) → ∀ call ∈ y.2, call.1 = request

instance (request : RemoteRequest) :
    IsPreorder (σ × List (RemoteRequest × Option String)) (StaysOn request) where
  refl _ := id
  trans _ _ _ hxy hyz := hyz ∘ hxy

theorem keeps_recording (source : Source σ) (request : RemoteRequest) (token : Option String) :
    Keeps (StaysOn request) (source.recording request token) := by
  intro x hx
  exact List.forall_mem_append.2 ⟨hx, List.forall_mem_singleton.2 rfl⟩

/-- **A plan is carried out with its one request.** -/
theorem requests_of_runShaped (p : Pipeline) (plan : Plan) (source : Source σ)
    (shape : Json → Except QueryError Json) (s : σ) :
    ∀ call ∈ ((p.runShaped plan source.recording shape).run.run (s, [])).2.2,
      call.1 = plan.remote := by
  -- a page adds one call, and that is the request of the plan
  have hkeeps : Keeps (StaysOn plan.remote) (p.runShaped plan source.recording shape).run :=
    keeps_runShaped (keeps_recording source plan.remote) p shape
  exact hkeeps (s, []) nofun

end Pushdown
