import Mathlib.Data.List.Nodup
import Pushdown.Proofs.Remote.Requests
import Pushdown.Rows.Completion

/-!
# Which pages are collected

A remote side that answers each question in one way gives a sequence of pages: the first, the one
that its token leads to, and so on. A collection takes an initial part of it and nothing else. Where
this part ends is in `Settled`, in terms of the pages alone. It ends with a page that leads to no
other or with which enough records are held, and then the records are those of the pages, cut to the
number needed. Or it ends with a failure: the next page cannot be had, or its token has been used.

The pages before the last are those with which a collection goes on (`GoesOn`). What ends it is
looked at in a fixed order: whether there are enough records, then whether there is a token, then
whether the token is new. Thus a token that was used does no harm on a page that brings enough.

There are two halves. The first is about pages: however many there may be at most, either a
collection settles before or it goes on for as long (`settled_or_goesOn`). The second is about the
run: as long as a collection goes on its progress is what was collected (`fetchFrom_of_goesOn`, by
induction on the pages), so it ends as it settles. `fetchAll_settles` puts them together.

A remote side with a new token on every page is asked without an end. A page counter has an end,
which is the only way for a collection to stop that is not settled.
-/

namespace Pushdown

/-- **A remote side that answers each question in one way.** -/
def Source.answering (answers : RemoteRequest → Option String → Except FetchError Page) :
    Source Unit :=
  fun request token => pure (answers request token)

variable {answers : Option String → Except FetchError Page} {maxRecords : Option Nat}
  {pages : List Page} {page : Page} {token : Option String} {next : String}

/-! ### Specification -/

/-- The records of pages, one page after another. -/
def recordsOf (pages : List Page) : List Json := pages.flatMap Page.records

/-- The tokens that pages and the page behind them are asked for with: the first page has none. -/
def tokensFor (pages : List Page) : List (Option String) := none :: pages.map Page.next

/-- **As many records as are needed.** -/
def Suffice (maxRecords : Option Nat) (records : List Json) : Prop :=
  ∃ most ∈ maxRecords, most ≤ records.length

instance (maxRecords : Option Nat) (records : List Json) :
    Decidable (Suffice maxRecords records) := by
  unfold Suffice
  infer_instance

/-- **A collection goes on** behind pages, with a token: they follow one another from the first, and
none of them leads nowhere, back or to enough records. -/
inductive GoesOn (answers : Option String → Except FetchError Page) (maxRecords : Option Nat) :
    List Page → Option String → Prop where
  /-- It begins without a page and without a token. -/
  | start : GoesOn answers maxRecords [] none
  /-- A page leads on. -/
  | further {pages : List Page} {token : Option String} {page : Page} {next : String}
      (before : GoesOn answers maxRecords pages token) (hpage : answers token = .ok page)
      (hroom : ¬ Suffice maxRecords (recordsOf (pages ++ [page])))
      (hnext : page.next = some next) (hsome : next ≠ "") (hnew : some next ∉ tokensFor pages) :
      GoesOn answers maxRecords (pages ++ [page]) (some next)

/-- **How a collection settles** behind pages. -/
inductive Settled (answers : Option String → Except FetchError Page) (maxRecords : Option Nat)
    (pages : List Page) : Except QueryError (List Json) → Prop where
  /-- A page leads nowhere, or brings enough records. -/
  | complete {token : Option String} {page : Page}
      (before : GoesOn answers maxRecords pages token) (hpage : answers token = .ok page)
      (hend : page.next = none ∨ page.next = some "" ∨
        Suffice maxRecords (recordsOf (pages ++ [page]))) :
      Settled answers maxRecords pages
        (.ok (cutWindow none maxRecords (recordsOf (pages ++ [page]))))
  /-- A page cannot be had: the failure says how many pages and records there were before. -/
  | failed {token : Option String} {cause : FetchError}
      (before : GoesOn answers maxRecords pages token) (hcause : answers token = .error cause) :
      Settled answers maxRecords pages
        (.error (.remoteFetch pages.length (recordsOf pages).length cause))
  /-- A page leads back, and there are not enough records. -/
  | circle {token : Option String} {page : Page} {next : String}
      (before : GoesOn answers maxRecords pages token) (hpage : answers token = .ok page)
      (hroom : ¬ Suffice maxRecords (recordsOf (pages ++ [page])))
      (hnext : page.next = some next) (hsome : next ≠ "") (hused : some next ∈ tokensFor pages) :
      Settled answers maxRecords pages
        (.error (.remoteFetch pages.length (recordsOf (pages ++ [page])).length
          (.protocol ("continuation token '" ++ next ++ "' returned twice"))))

/-! ### Pages -/

theorem tokensFor_concat (hnext : page.next = some next) :
    tokensFor (pages ++ [page]) = tokensFor pages ++ [some next] := by
  unfold tokensFor
  rw [List.map_append, List.map_singleton, hnext]
  rfl

theorem recordsOf_concat (pages : List Page) (page : Page) :
    recordsOf (pages ++ [page]) = recordsOf pages ++ page.records := by
  unfold recordsOf
  rw [List.flatMap_append, List.flatMap_singleton]

/-- The token to go on with is the last that was come by. -/
theorem GoesOn.tokensFor_eq (h : GoesOn answers maxRecords pages token) :
    tokensFor pages = (tokensFor pages).dropLast ++ [token] := by
  -- the last page that led on did so with this token
  cases h with
  | start => rfl
  | further before hpage hroom hnext hsome hnew =>
    rw [tokensFor_concat hnext, List.dropLast_concat]

/-- **No page is asked for twice.** -/
theorem GoesOn.nodup_tokensFor (h : GoesOn answers maxRecords pages token) :
    (tokensFor pages).Nodup := by
  -- a page is added only with a token that is new
  induction h with
  | start => exact List.nodup_singleton none
  | further before hpage hroom hnext hsome hnew ih =>
    rw [tokensFor_concat hnext, ← List.concat_eq_append]
    exact (List.nodup_concat _ _).2 ⟨hnew, ih⟩

/-- **Behind every page a collection settles or goes on.** -/
theorem GoesOn.settled_or_further (h : GoesOn answers maxRecords pages token) :
    (∃ outcome, Settled answers maxRecords pages outcome) ∨
      ∃ page next, GoesOn answers maxRecords (pages ++ [page]) (some next) := by
  -- in the order in which a page is looked at: it came, it brings enough, it leads on, it is new
  cases hanswer : answers token with
  | error cause => exact .inl ⟨_, .failed h hanswer⟩
  | ok page =>
    by_cases henough : Suffice maxRecords (recordsOf (pages ++ [page]))
    · exact .inl ⟨_, .complete h hanswer (.inr (.inr henough))⟩
    · cases hnext : page.next with
      | none => exact .inl ⟨_, .complete h hanswer (.inl hnext)⟩
      | some next =>
        by_cases hempty : next = ""
        · subst hempty
          exact .inl ⟨_, .complete h hanswer (.inr (.inl hnext))⟩
        · by_cases hused : some next ∈ tokensFor pages
          · exact .inl ⟨_, .circle h hanswer henough hnext hempty hused⟩
          · exact .inr ⟨page, next, .further h hanswer henough hnext hempty hused⟩

/-- **A collection settles behind fewer than `n` pages, or goes on for as many.** -/
theorem settled_or_goesOn (answers : Option String → Except FetchError Page)
    (maxRecords : Option Nat) (n : Nat) :
    (∃ pages outcome, pages.length < n ∧ Settled answers maxRecords pages outcome) ∨
      ∃ pages token, pages.length = n ∧ GoesOn answers maxRecords pages token := by
  -- one page more at a time, as behind as many as there are it settles or goes on
  induction n with
  | zero => exact .inr ⟨[], none, rfl, .start⟩
  | succ n ih =>
    rcases ih with ⟨pages, outcome, hlen, hsettled⟩ | ⟨pages, token, hlen, hopen⟩
    · exact .inl ⟨pages, outcome, Nat.lt_succ_of_lt hlen, hsettled⟩
    · rcases hopen.settled_or_further with ⟨outcome, hsettled⟩ | ⟨page, next, hfurther⟩
      · exact .inl ⟨pages, outcome, hlen ▸ Nat.lt_succ_self pages.length, hsettled⟩
      · exact .inr ⟨_, _, by rw [List.length_append, hlen]; rfl, hfurther⟩

/-! ### Steps -/

theorem enough_iff {records : List Json} :
    enough maxRecords records = true ↔ Suffice maxRecords records := by
  unfold enough Suffice
  cases maxRecords <;> simp

theorem Page.continuation_eq_some_iff :
    page.continuation = some next ↔ page.next = some next ∧ next ≠ "" := by
  unfold Page.continuation
  rw [Option.filter_eq_some_iff]
  simp

theorem Page.continuation_eq_none_iff :
    page.continuation = none ↔ page.next = none ∨ page.next = some "" := by
  unfold Page.continuation
  cases page.next <;> simp

/-- **The progress behind pages.** -/
def Progress.behind (pages : List Page) (token : Option String) : Progress :=
  ⟨pages.length, token, pages.filterMap Page.next, recordsOf pages⟩

theorem contains_used_iff :
    (Progress.behind pages token).used.contains next = true ↔ some next ∈ tokensFor pages := by
  unfold Progress.behind tokensFor
  rw [List.contains_iff_mem, List.mem_filterMap, List.mem_cons, List.mem_map]
  -- the first page has no token, so a token that was used is that of a page
  exact (or_iff_right (Option.some_ne_none next)).symm

/-- What a page leads to that does not bring enough records. -/
theorem advance_of_room (hroom : ¬ Suffice maxRecords (recordsOf (pages ++ [page]))) :
    (Progress.behind pages token).advance maxRecords page =
      match page.continuation with
      | none => .done (.ok (recordsOf (pages ++ [page])))
      | some next =>
        if some next ∈ tokensFor pages then
          .done (.error (.remoteFetch pages.length (recordsOf (pages ++ [page])).length
            (.protocol ("continuation token '" ++ next ++ "' returned twice"))))
        else .more (.behind (pages ++ [page]) (some next)) := by
  have hheld : (Progress.behind pages token).held ++ page.records = recordsOf (pages ++ [page]) :=
    (recordsOf_concat pages page).symm
  unfold Progress.advance
  dsimp only
  -- there is room, so only the token decides
  rw [hheld, if_neg (mt enough_iff.1 hroom)]
  cases hnext : page.continuation with
  | none => rfl
  | some next =>
    dsimp only
    by_cases hused : some next ∈ tokensFor pages
    · rw [if_pos (contains_used_iff.2 hused), if_pos hused]
      rfl
    · rw [if_neg (mt contains_used_iff.1 hused), if_neg hused]
      -- the page is one more, and its token is the last of those used
      obtain ⟨hnext, -⟩ := Page.continuation_eq_some_iff.1 hnext
      unfold Progress.behind
      rw [List.length_append, List.filterMap_append, List.filterMap_cons, hnext]
      rfl

theorem advance_of_suffice (h : Suffice maxRecords (recordsOf (pages ++ [page]))) :
    (Progress.behind pages token).advance maxRecords page =
      .done (.ok (cutWindow none maxRecords (recordsOf (pages ++ [page])))) := by
  have hheld : (Progress.behind pages token).held ++ page.records = recordsOf (pages ++ [page]) :=
    (recordsOf_concat pages page).symm
  unfold Progress.advance
  dsimp only
  rw [hheld, if_pos (enough_iff.2 h)]
  -- where records suffice there is a number of them that is needed
  obtain ⟨most, hmost, -⟩ := h
  obtain rfl : maxRecords = some most := hmost
  rfl

/-- Records that do not suffice are not cut. -/
theorem cutWindow_of_not_suffice {records : List Json} (h : ¬ Suffice maxRecords records) :
    cutWindow none maxRecords records = records := by
  cases maxRecords with
  | none => rfl
  | some most =>
    -- there are fewer records than are needed
    have hlt : ¬ most ≤ records.length := fun hle => h ⟨most, rfl, hle⟩
    exact List.take_of_length_le (Nat.le_of_not_le hlt)

/-- **A page with which a collection goes on is a step of it.** -/
theorem step_of_further (hpage : answers token = .ok page)
    (hroom : ¬ Suffice maxRecords (recordsOf (pages ++ [page])))
    (hnext : page.next = some next) (hsome : next ≠ "") (hnew : some next ∉ tokensFor pages) :
    (Progress.behind pages token).step maxRecords (answers token) =
      .more (.behind (pages ++ [page]) (some next)) := by
  rw [hpage]
  show (Progress.behind pages token).advance maxRecords page = _
  rw [advance_of_room hroom, Page.continuation_eq_some_iff.2 ⟨hnext, hsome⟩]
  exact if_neg hnew

/-- **What settles a collection is its last step.** -/
theorem step_of_settled {outcome : Except QueryError (List Json)}
    (h : Settled answers maxRecords pages outcome) :
    ∃ token, GoesOn answers maxRecords pages token ∧
      (Progress.behind pages token).step maxRecords (answers token) = .done outcome := by
  cases h with
  | @complete token page before hpage hend =>
    refine ⟨token, before, ?_⟩
    rw [hpage]
    show (Progress.behind pages token).advance maxRecords page = _
    by_cases henough : Suffice maxRecords (recordsOf (pages ++ [page]))
    · exact advance_of_suffice henough
    · -- a page that does not bring enough has to be the last by its token
      have hnone : page.continuation = none :=
        Page.continuation_eq_none_iff.2 (hend.imp_right (Or.resolve_right · henough))
      rw [advance_of_room henough, hnone, cutWindow_of_not_suffice henough]
  | @failed token cause before hcause =>
    refine ⟨token, before, ?_⟩
    rw [hcause]
    rfl
  | @circle token page next before hpage hroom hnext hsome hused =>
    refine ⟨token, before, ?_⟩
    rw [hpage]
    show (Progress.behind pages token).advance maxRecords page = _
    rw [advance_of_room hroom, Page.continuation_eq_some_iff.2 ⟨hnext, hsome⟩]
    exact if_pos hused

/-! ### Runs -/

section

variable {answers : RemoteRequest → Option String → Except FetchError Page}
  {request : RemoteRequest}

/-- **As long as a collection goes on**, its progress is what was collected. -/
theorem fetchFrom_of_goesOn (h : GoesOn (answers request) request.maxRecords pages token)
    (n : Nat) :
    (fetchFrom (Source.answering answers).recording request (pages.length + n) .start).run
        ((), []) =
      (fetchFrom (Source.answering answers).recording request n (.behind pages token)).run
        ((), callsFor request (tokensFor pages).dropLast) := by
  -- page by page, with one request of the allowance spent on each
  induction h generalizing n with
  | start =>
    rw [List.length_nil, Nat.zero_add]
    rfl
  | @further pages token page next before hpage hroom hnext hsome hnew ih =>
    have hlen : (pages ++ [page]).length + n = pages.length + (n + 1) := by
      rw [List.length_append, List.length_singleton, Nat.add_assoc, Nat.add_comm 1]
    have htokens : callsFor request (tokensFor pages).dropLast ++ [(request, token)] =
        callsFor request (tokensFor (pages ++ [page])).dropLast := by
      rw [← callsFor_concat, ← before.tokensFor_eq, tokensFor_concat hnext, List.dropLast_concat]
    rw [hlen, ih (n + 1), ← htokens]
    exact fetchFrom_of_more (step_of_further hpage hroom hnext hsome hnew) n _

/-- **A collection ends as it settles**, and has asked for no page behind. -/
theorem fetchWithin_of_settled {outcome : Except QueryError (List Json)} {allowance : Nat}
    (h : Settled (answers request) request.maxRecords pages outcome)
    (hlen : pages.length < allowance) :
    (fetchWithin (Source.answering answers).recording request allowance).run ((), []) =
      (some outcome, (), callsFor request (tokensFor pages)) := by
  obtain ⟨token, before, hstep⟩ := step_of_settled h
  -- the pages before take their part of the allowance, and one more is left for the last
  obtain ⟨n, rfl⟩ := Nat.exists_eq_add_of_lt hlen
  unfold fetchWithin
  rw [Nat.add_assoc, fetchFrom_of_goesOn before, before.tokensFor_eq, List.dropLast_concat,
    callsFor_concat]
  exact fetchFrom_of_done hstep n _

/-- A collection that goes on for as many pages as are allowed has no outcome. -/
theorem fetchWithin_of_goesOn (h : GoesOn (answers request) request.maxRecords pages token) :
    (fetchWithin (Source.answering answers).recording request pages.length).run ((), []) =
      (none, (), callsFor request (tokensFor pages).dropLast) := by
  unfold fetchWithin
  exact fetchFrom_of_goesOn h 0

/-- **Which pages are collected.** A collection settles, and then its outcome is what it settles
with and it has asked for the pages up to the last, with one and the same request; or pages that
lead on have come until their number could not be counted any more. -/
theorem fetchAll_settles (answers : RemoteRequest → Option String → Except FetchError Page)
    (request : RemoteRequest) :
    ((∃ pages outcome, Settled (answers request) request.maxRecords pages outcome ∧
        (fetchAll (Source.answering answers).recording request).run.run ((), []) =
          (outcome, (), callsFor request (tokensFor pages))) ∨
      ∃ pages token, GoesOn (answers request) request.maxRecords pages token ∧
        pages.length = pageAllowance ∧
        (fetchAll (Source.answering answers).recording request).run.run ((), []) =
          (.error (.remoteFetch pageAllowance 0 (.protocol "the pages have no end")), (),
            callsFor request (tokensFor pages).dropLast)) ∧
    ∀ pages outcome, Settled (answers request) request.maxRecords pages outcome →
      pages.length < pageAllowance →
        (fetchAll (Source.answering answers).recording request).run.run ((), []) =
          (outcome, (), callsFor request (tokensFor pages)) := by
  have hsettled : ∀ pages outcome, Settled (answers request) request.maxRecords pages outcome →
      pages.length < pageAllowance →
        (fetchAll (Source.answering answers).recording request).run.run ((), []) =
          (outcome, (), callsFor request (tokensFor pages)) := by
    intro pages outcome h hlen
    -- the outcome of a collection is that of its pages, if there is one
    unfold fetchAll
    rw [ExceptT.run_mk, StateT.run_bind, fetchWithin_of_settled h hlen]
    rfl
  refine ⟨?_, hsettled⟩
  rcases settled_or_goesOn (answers request) request.maxRecords pageAllowance with
    ⟨pages, outcome, hlen, h⟩ | ⟨pages, token, hlen, h⟩
  · exact .inl ⟨pages, outcome, h, hsettled pages outcome h hlen⟩
  · -- as many pages as are allowed led on, so there is none
    refine .inr ⟨pages, token, h, hlen, ?_⟩
    unfold fetchAll
    rw [ExceptT.run_mk, StateT.run_bind, ← hlen, fetchWithin_of_goesOn h]
    rfl

end

/-- Two records, a page without records, and two more with a token that leads back. -/
def circlingPages : Option String → Page
  | none => ⟨[.ofInt 1, .ofInt 2], some "a"⟩
  | some token => if token = "a" then ⟨[], some "b"⟩ else ⟨[.ofInt 3, .ofInt 4], some "a"⟩

/-- Three records are needed: the last page is cut, and its token is not looked at. -/
theorem fetchAll_settles_circlingPages :
    ∃ request : RemoteRequest, request.maxRecords = some 3 ∧
      Settled (fun token => .ok (circlingPages token)) request.maxRecords
        [circlingPages none, circlingPages (some "a")]
        (.ok [.ofInt 1, .ofInt 2, .ofInt 3]) ∧
      2 < pageAllowance ∧
      (fetchAll (Source.answering fun _ token => .ok (circlingPages token)).recording
          request).run.run ((), []) =
        (.ok [.ofInt 1, .ofInt 2, .ofInt 3], (),
          [(request, none), (request, some "a"), (request, some "b")]) := by
  let request : RemoteRequest := { RemoteRequest.forTable "t" with maxRecords := some 3 }
  -- it goes on behind both pages: fewer than three records are held, and the tokens are new
  have hfirst : GoesOn (fun token => .ok (circlingPages token)) (some 3)
      [circlingPages none] (some "a") :=
    @GoesOn.further _ _ [] none _ "a" .start rfl (by decide) rfl (by decide) (by decide)
  have hsecond : GoesOn (fun token => .ok (circlingPages token)) (some 3)
      [circlingPages none, circlingPages (some "a")] (some "b") :=
    @GoesOn.further _ _ [_] (some "a") _ "b" hfirst rfl (by decide) rfl (by decide) (by decide)
  have hsettled : Settled (fun token => .ok (circlingPages token)) (some 3)
      [circlingPages none, circlingPages (some "a")] (.ok [.ofInt 1, .ofInt 2, .ofInt 3]) :=
    .complete hsecond rfl (.inr (.inr (by decide)))
  have hlen : 2 < pageAllowance := by decide
  exact ⟨request, rfl, hsettled, hlen,
    (fetchAll_settles (fun _ token => .ok (circlingPages token)) request).2 _ _ hsettled hlen⟩

end Pushdown
