import Pushdown.Http.PageSource
import Pushdown.Proofs.Outcome
import Pushdown.Proofs.Remote.Requests

/-!
# Which bodies an interface collects

Over a network a collection is a sequence of bodies. Each is looked at in two places, for its items
and for the token of the next page. This file says how far a collection goes in terms of the values
in these places, for a network that answers in turn with whatever responses and failures
(`Network.inTurn`).

In the place of the token there are three kinds of values. A text that is not empty is a token, and
the body `LeadsTo` the next. If there is nothing, a null or the empty text, the body `IsLast`. Any
other value is neither: it does not say that there is no further page, but no page can be asked for
with it. It is taken for the end of the pages all the same.

So a collection comes to the items of all bodies up to the first that does not lead on
(`fetchFrom_eq_ok_iff`, by induction on the allowance, from what one answer leads to). That is the
first that says it is the last, unless a value of the third kind comes before: this and nothing else
cuts a collection short (`fetchAll_bodies_iff`).
-/

namespace Pushdown.Http

/-- **A network that answers in turn**, whatever it is asked: its state is the number of requests it
has answered. -/
def Network.inTurn (answers : Nat → Except FetchError Response) : Network Nat :=
  fun _ n => (answers n, n + 1)

/-- The body of an answer. -/
def bodyOf (answers : Nat → Except FetchError Response) (n : Nat) : Except FetchError Json :=
  (answers n).bind Response.json

variable {i : PageInterface} {answers : Nat → Except FetchError Response} {body last : Json}
  {items records : List Json} {bodies : List Json} {pages : List (List Json)} {token : String}
  {used : List String} {n : Nat} {request : RemoteRequest} {p next : Progress}

namespace PageInterface

/-! ### Specification -/

/-- **The items of a body**: those of the array in their place, none if nothing or a null is there.
-/
inductive Holds (i : PageInterface) (body : Json) : List Json → Prop where
  /-- There is an array. -/
  | array {items : List Json} (h : body.at? i.itemsAt = some (.array items)) : Holds i body items
  /-- There is nothing. -/
  | absent (h : body.at? i.itemsAt = none) : Holds i body []
  /-- There is a null. -/
  | null (h : body.at? i.itemsAt = some .null) : Holds i body []

/-- What is in the place of the token. -/
def nextValue (i : PageInterface) (body : Json) : Option Json := i.nextAt.bind body.at?

/-- **A body that leads to the next page**, by a token. -/
def LeadsTo (i : PageInterface) (body : Json) (token : String) : Prop :=
  i.nextValue body = some (.string token) ∧ token ≠ ""

/-- **A body that says that it is the last.** -/
def IsLast (i : PageInterface) (body : Json) : Prop :=
  i.nextValue body = none ∨ i.nextValue body = some .null ∨ i.nextValue body = some (.string "")

/-- **The bodies that a collection takes**, from an answer on, when some tokens have been used; and
the items in each of them. -/
inductive Takes (i : PageInterface) (answers : Nat → Except FetchError Response) :
    (n : Nat) → (used : List String) → (bodies : List Json) → List (List Json) → Prop where
  /-- A body that does not lead on is the last. -/
  | last {n : Nat} {used : List String} {body : Json} {items : List Json}
      (hbody : bodyOf answers n = .ok body) (hitems : i.Holds body items)
      (hend : ∀ token, ¬ i.LeadsTo body token) : Takes i answers n used [body] [items]
  /-- A body that leads on with a new token is followed by others. -/
  | further {n : Nat} {used : List String} {body : Json} {items : List Json} {token : String}
      {bodies : List Json} {pages : List (List Json)}
      (hbody : bodyOf answers n = .ok body) (hitems : i.Holds body items)
      (hnext : i.LeadsTo body token) (hnew : token ∉ used)
      (others : Takes i answers (n + 1) (used ++ [token]) bodies pages) :
      Takes i answers n used (body :: bodies) (items :: pages)

/-! ### One body -/

theorem items_eq_ok_iff : i.items body = .ok items ↔ i.Holds body items := by
  unfold PageInterface.items
  constructor
  · intro h
    split at h
    case h_1 habsent =>
      obtain rfl := Except.ok.inj h
      exact .absent habsent
    case h_2 hnull =>
      obtain rfl := Except.ok.inj h
      exact .null hnull
    case h_3 harray =>
      obtain rfl := Except.ok.inj h
      exact .array harray
    case h_4 => exact absurd h nofun
  · -- each kind of value in the place of the items is one branch of the reader
    rintro (h | h | h) <;> rw [h]

theorem nextToken_eq_some_iff :
    i.nextToken body = some token ↔ i.nextValue body = some (.string token) := by
  unfold nextToken
  show (i.nextValue body).bind Json.string? = _ ↔ _
  cases i.nextValue body with
  | none => simp
  | some v => cases v <;> simp [Json.string?]

/-- **The page of a body** has its items, and goes on with the token that it leads to. -/
theorem exists_page_of_holds (h : i.Holds body items) :
    ∃ page, i.page body = .ok page ∧ page.records = items ∧
      ∀ token, page.continuation = some token ↔ i.LeadsTo body token := by
  refine ⟨⟨items, i.nextToken body⟩, map_eq_ok_iff.2 ⟨items, items_eq_ok_iff.2 h, rfl⟩, rfl, ?_⟩
  intro token
  unfold Page.continuation LeadsTo
  -- an empty text would go on nowhere, and it is filtered away
  rw [Option.filter_eq_some_iff, nextToken_eq_some_iff]
  simp

/-! ### One answer -/

/-- **A body is a step of a collection** as its page is. -/
theorem step_of_body {page : Page} (hbody : bodyOf answers n = .ok body)
    (hpage : i.page body = .ok page) (p : Progress) :
    p.step none ((bodyOf answers n).bind i.page) = p.advance none page := by
  rw [hbody]
  show p.step none (i.page body) = _
  rw [hpage]
  rfl

/-- A body that does not lead on ends a collection. -/
theorem step_of_last (hbody : bodyOf answers n = .ok body) (hitems : i.Holds body items)
    (hend : ∀ token, ¬ i.LeadsTo body token) (p : Progress) :
    p.step none ((bodyOf answers n).bind i.page) = .done (.ok (p.held ++ items)) := by
  obtain ⟨page, hpage, rfl, hcontinuation⟩ := exists_page_of_holds hitems
  -- no token at all, and no request can follow
  have hnone : page.continuation = none :=
    Option.eq_none_iff_forall_ne_some.2 fun token h => hend token ((hcontinuation token).1 h)
  rw [step_of_body hbody hpage, Progress.advance, hnone]
  rfl

/-- A body that leads on with a new token is followed by a further request. -/
theorem step_of_new (hbody : bodyOf answers n = .ok body) (hitems : i.Holds body items)
    (hnext : i.LeadsTo body token) (hnew : token ∉ p.used) :
    p.step none ((bodyOf answers n).bind i.page) =
      .more ⟨p.page + 1, some token, p.used ++ [token], p.held ++ items⟩ := by
  obtain ⟨page, hpage, rfl, hcontinuation⟩ := exists_page_of_holds hitems
  rw [step_of_body hbody hpage, Progress.advance, (hcontinuation token).2 hnext]
  -- the token is new, so it is not among those that were used
  exact if_neg (mt List.contains_iff_mem.1 hnew)

/-- A body that leads on with a token that was used is a failure. -/
theorem step_of_used (hbody : bodyOf answers n = .ok body) (hitems : i.Holds body items)
    (hnext : i.LeadsTo body token) (hused : token ∈ p.used) :
    ∃ e, p.step none ((bodyOf answers n).bind i.page) = .done (.error e) := by
  obtain ⟨page, hpage, rfl, hcontinuation⟩ := exists_page_of_holds hitems
  rw [step_of_body hbody hpage, Progress.advance, (hcontinuation token).2 hnext]
  exact ⟨_, if_pos (List.contains_iff_mem.2 hused)⟩

/-- A failure instead of a body with items is one of the collection. -/
theorem step_of_failure (h : ∀ body items, bodyOf answers n = .ok body → ¬ i.Holds body items)
    (p : Progress) : ∃ e, p.step none ((bodyOf answers n).bind i.page) = .done (.error e) := by
  -- the answer fails, or the body of it holds no items
  cases hbody : bodyOf answers n with
  | error e => exact ⟨_, rfl⟩
  | ok body =>
    cases hitems : i.items body with
    | error e =>
      refine ⟨.remoteFetch p.page p.held.length e, ?_⟩
      show p.step none ((i.items body).map _) = _
      rw [hitems]
      rfl
    | ok items => exact absurd (items_eq_ok_iff.1 hitems) (h body items hbody)

/-! ### Collections -/

section

variable (hbudget : request.maxRecords = none)

include hbudget

/-- A collection whose next answer ends it. -/
theorem fetchFrom_of_step_done {outcome : Except QueryError (List Json)}
    (hstep : p.step none ((bodyOf answers n).bind i.page) = .done outcome) (allowance : Nat) :
    (fetchFrom (i.source (Network.inTurn answers)) request (allowance + 1) p).run n =
      (some outcome, n + 1) := by
  rw [← hbudget] at hstep
  exact fetchFrom_run_of_done (s := n) hstep allowance

/-- A collection whose next answer is followed by a further request. -/
theorem fetchFrom_of_step_more
    (hstep : p.step none ((bodyOf answers n).bind i.page) = .more next) (allowance : Nat) :
    (fetchFrom (i.source (Network.inTurn answers)) request (allowance + 1) p).run n =
      (fetchFrom (i.source (Network.inTurn answers)) request allowance next).run (n + 1) := by
  rw [← hbudget] at hstep
  exact fetchFrom_run_of_more (s := n) hstep allowance

/-- **The bodies that are taken are collected**, if so many requests are allowed. -/
theorem Takes.fetchFrom_run (h : Takes i answers n used bodies pages) (hused : p.used = used)
    {allowance : Nat} (hlen : bodies.length ≤ allowance) :
    (fetchFrom (i.source (Network.inTurn answers)) request allowance p).run n =
      (some (.ok (p.held ++ pages.flatten)), n + bodies.length) := by
  induction h generalizing p allowance with
  | @last n used body items hbody hitems hend =>
    obtain ⟨allowance, rfl⟩ := Nat.exists_eq_add_of_le' hlen
    -- one body: the first answer ends the collection
    have hstep := step_of_last hbody hitems hend p
    rw [List.flatten_singleton]
    exact fetchFrom_of_step_done hbudget hstep allowance
  | @further n used body items token bodies pages hbody hitems hnext hnew others ih =>
    obtain ⟨allowance, rfl⟩ := Nat.exists_eq_add_of_le' hlen
    -- a further body takes one of the allowance, with its items in front
    have hstep := step_of_new hbody hitems hnext (hused ▸ hnew)
    have hrest := ih (p := ⟨p.page + 1, some token, p.used ++ [token], p.held ++ items⟩)
      (by rw [hused]) (Nat.le_add_left bodies.length allowance)
    calc (fetchFrom (i.source (Network.inTurn answers)) request
          (allowance + bodies.length + 1) p).run n
        = (some (.ok (p.held ++ items ++ pages.flatten)), n + 1 + bodies.length) :=
          (fetchFrom_of_step_more hbudget hstep _).trans hrest
      _ = (some (.ok (p.held ++ (items :: pages).flatten)), n + (body :: bodies).length) := by
          rw [List.append_assoc, List.flatten_cons, List.length_cons, Nat.add_assoc,
            Nat.add_comm 1]

/-- **What is collected comes from the bodies that are taken.** -/
theorem exists_takes_of_fetchFrom {allowance : Nat}
    (h : ((fetchFrom (i.source (Network.inTurn answers)) request allowance p).run n).1 =
      some (.ok records)) :
    ∃ bodies pages, Takes i answers n p.used bodies pages ∧ bodies.length ≤ allowance ∧
      records = p.held ++ pages.flatten := by
  -- on the allowance, since a step takes one of it
  induction allowance generalizing p n with
  | zero => exact absurd h nofun
  | succ allowance ih =>
    -- a step that is a failure would be the outcome
    have hfailure : ¬ ∃ e, p.step none ((bodyOf answers n).bind i.page) = .done (.error e) := by
      rintro ⟨e, hstep⟩
      rw [fetchFrom_of_step_done hbudget hstep] at h
      exact absurd h nofun
    by_cases hbody : ∀ body items, bodyOf answers n = .ok body → ¬ i.Holds body items
    · exact absurd (step_of_failure hbody p) hfailure
    · push Not at hbody
      obtain ⟨body, items, hbody, hitems⟩ := hbody
      by_cases hend : ∀ token, ¬ i.LeadsTo body token
      · rw [fetchFrom_of_step_done hbudget (step_of_last hbody hitems hend p)] at h
        refine ⟨[body], [items], .last hbody hitems hend, Nat.succ_le_succ (Nat.zero_le _), ?_⟩
        rw [List.flatten_singleton]
        exact (Except.ok.inj (Option.some.inj h)).symm
      · push Not at hend
        obtain ⟨token, hnext⟩ := hend
        by_cases hused : token ∈ p.used
        · exact absurd (step_of_used hbody hitems hnext hused) hfailure
        · rw [fetchFrom_of_step_more hbudget (step_of_new hbody hitems hnext hused)] at h
          obtain ⟨bodies, pages, htakes, hlen, rfl⟩ := ih h
          refine ⟨body :: bodies, items :: pages, .further hbody hitems hnext hused htakes,
            Nat.succ_le_succ hlen, ?_⟩
          -- the items of this body stand in front of those of the rest
          rw [List.flatten_cons, ← List.append_assoc]

end

/-- **A collection of bodies that are taken** comes to their items. -/
theorem Takes.fetchAll_run (hbudget : request.maxRecords = none)
    (h : Takes i answers 0 [] bodies pages) (hlen : bodies.length ≤ pageAllowance) :
    (fetchAll (i.source (Network.inTurn answers)) request).run.run 0 =
      (.ok pages.flatten, bodies.length) := by
  unfold fetchAll fetchWithin
  rw [ExceptT.run_mk, StateT.run_bind, h.fetchFrom_run hbudget (p := .start) rfl hlen,
    Nat.zero_add]
  rfl

/-! ### The end of the pages -/

/-- **What is in the place of the token** of a body that neither leads on nor says that it is the
last: a value that is neither null nor a text. -/
theorem not_isLast_iff (hend : ∀ token, ¬ i.LeadsTo body token) :
    ¬ i.IsLast body ↔ ∃ v, i.nextValue body = some v ∧ v ≠ .null ∧ v.isString = false := by
  unfold IsLast
  unfold LeadsTo at hend
  cases hvalue : i.nextValue body with
  | none =>
    refine iff_of_false (fun h => h (.inl rfl)) ?_
    rintro ⟨_, ⟨⟩, -⟩
  | some v =>
    rw [hvalue] at hend
    cases v with
    | string token =>
      -- a text that leads nowhere is empty
      have hempty : token = "" := by
        by_contra hne
        exact hend token ⟨rfl, hne⟩
      subst hempty
      refine iff_of_false (fun h => h (.inr (.inr rfl))) ?_
      rintro ⟨_, ⟨⟩, -, h⟩
      exact absurd h (by decide)
    | null =>
      refine iff_of_false (fun h => h (.inr (.inl rfl))) ?_
      rintro ⟨_, ⟨⟩, hne, -⟩
      exact hne rfl
    | bool | number | array | object => exact iff_of_true (by simp) ⟨_, rfl, by simp, rfl⟩

theorem LeadsTo.not_isLast (h : i.LeadsTo body token) : ¬ i.IsLast body := by
  obtain ⟨hvalue, hne⟩ := h
  unfold IsLast
  rw [hvalue]
  simpa using hne

/-- **All bodies that are taken but the last** lead on. -/
theorem Takes.exists_last (h : Takes i answers n used bodies pages) :
    ∃ before last, bodies = before ++ [last] ∧ (∀ body ∈ before, ¬ i.IsLast body) ∧
      ∀ token, ¬ i.LeadsTo last token := by
  induction h with
  | last hbody hitems hend => exact ⟨[], _, rfl, nofun, hend⟩
  | further hbody hitems hnext hnew others ih =>
    -- a body in front leads on, so it does not say that it is the last
    obtain ⟨before, last, rfl, hbefore, hend⟩ := ih
    exact ⟨_ :: before, last, rfl, List.forall_mem_cons.2 ⟨hnext.not_isLast, hbefore⟩, hend⟩

/-- **How far a collection goes.** Without a budget it succeeds exactly if there are bodies for it
to take, and then it comes to all of their items. All of them but the last lead on. The last is the
first that says that it is the last, unless there is a value in the place of its token that is
neither null nor a text: then the collection is cut short. -/
theorem fetchAll_bodies_iff (hbudget : request.maxRecords = none) :
    (∀ records, ((fetchAll (i.source (Network.inTurn answers)) request).run.run 0).1 = .ok records ↔
      ∃ bodies pages, Takes i answers 0 [] bodies pages ∧ bodies.length ≤ pageAllowance ∧
        records = pages.flatten) ∧
    ∀ bodies pages, Takes i answers 0 [] bodies pages →
      ∃ before last, bodies = before ++ [last] ∧ (∀ body ∈ before, ¬ i.IsLast body) ∧
        (¬ i.IsLast last ↔
          ∃ v, i.nextValue last = some v ∧ v ≠ .null ∧ v.isString = false) := by
  refine ⟨fun records => ?_, fun bodies pages h => ?_⟩
  · constructor
    · intro h
      -- the collection itself is the fetch with all of the allowance, from its start
      unfold fetchAll fetchWithin at h
      rw [ExceptT.run_mk, StateT.run_bind] at h
      dsimp only [bind] at h
      cases houtcome : ((fetchFrom (i.source (Network.inTurn answers)) request pageAllowance
        .start).run 0).1 with
      | none =>
        rw [houtcome] at h
        exact absurd h nofun
      | some outcome =>
        rw [houtcome] at h
        obtain rfl : outcome = .ok records := h
        exact exists_takes_of_fetchFrom hbudget houtcome
    · rintro ⟨bodies, pages, htakes, hlen, rfl⟩
      rw [htakes.fetchAll_run hbudget hlen]
  · obtain ⟨before, last, heq, hbefore, hend⟩ := h.exists_last
    exact ⟨before, last, heq, hbefore, not_isLast_iff hend⟩

/-! ### Instances -/

/-- An interface whose tokens are under `next`. -/
def nextInterface : PageInterface :=
  { ofEndpoint "https://api.example.test/v3/items" with
    nextAt := some "/next", continuation := .parameter "page" }

/-- Three responses: with a token, without items and a token, and one behind the end. -/
def endedResponses : Nat → Except FetchError Response
  | 0 => .ok ⟨200, "\x7b\"items\":[1,2],\"next\":\"a\"\x7d"⟩
  | 1 => .ok ⟨200, "\x7b\"items\":null,\"next\":null\x7d"⟩
  | _ => .ok ⟨200, "\x7b\"items\":[3]\x7d"⟩

/-- The body with a null in the place of the token ends the collection. -/
theorem fetchAll_bodies_endedResponses :
    ∃ request : RemoteRequest, request.maxRecords = none ∧
      ((fetchAll (nextInterface.source (Network.inTurn endedResponses)) request).run.run 0).1 =
        .ok [.ofInt 1, .ofInt 2] := by
  let first : Json := .object [("items", .array [.ofInt 1, .ofInt 2]), ("next", "a")]
  let second : Json := .object [("items", .null), ("next", .null)]
  -- by its responses: a token, then the null that ends the pages
  have hfirst : bodyOf endedResponses 0 = .ok first := eq_ok_of_toOption (by decide +kernel)
  have hsecond : bodyOf endedResponses 1 = .ok second := eq_ok_of_toOption (by decide +kernel)
  have hlead : nextInterface.LeadsTo first "a" := ⟨by decide +kernel, by decide⟩
  have hend : ∀ token, ¬ nextInterface.LeadsTo second token := by
    have hvalue : nextInterface.nextValue second = some .null := by decide +kernel
    intro token h
    exact absurd (hvalue.symm.trans h.1) nofun
  have htakes : Takes nextInterface endedResponses 0 [] [first, second]
      [[.ofInt 1, .ofInt 2], []] :=
    .further hfirst (.array (by decide +kernel)) hlead List.not_mem_nil
      (.last hsecond (.null (by decide +kernel)) hend)
  refine ⟨.forTable "t", rfl, ((fetchAll_bodies_iff rfl).1 _).2 ⟨_, _, htakes, ?_, rfl⟩⟩
  exact Nat.le_of_ble_eq_true rfl

/-- A response with a number in the place of the token, and one behind it. -/
def numberedResponses : Nat → Except FetchError Response
  | 0 => .ok ⟨200, "\x7b\"items\":[1],\"next\":2\x7d"⟩
  | _ => .ok ⟨200, "\x7b\"items\":[3],\"next\":null\x7d"⟩

/-- **A number in the place of the token cuts a collection short**: the page that it announces is
not asked for, and nothing fails. -/
theorem numberedResponses_cut_short :
    (fetchAll (nextInterface.source (Network.inTurn numberedResponses)) (.forTable "t")).run.run 0 =
      (.ok [.ofInt 1], 1) ∧
    bodyOf numberedResponses 0 =
      .ok (.object [("items", .array [.ofInt 1]), ("next", .ofInt 2)]) ∧
    ¬ nextInterface.IsLast (.object [("items", .array [.ofInt 1]), ("next", .ofInt 2)]) := by
  -- the number announces a page that no request can ask for
  have hbody : bodyOf numberedResponses 0 =
      .ok (.object [("items", .array [.ofInt 1]), ("next", .ofInt 2)]) :=
    eq_ok_of_toOption (by decide +kernel)
  have hvalue : nextInterface.nextValue
      (.object [("items", .array [.ofInt 1]), ("next", .ofInt 2)]) = some (.ofInt 2) := by
    decide +kernel
  have hend : ∀ token, ¬ nextInterface.LeadsTo
      (.object [("items", .array [.ofInt 1]), ("next", .ofInt 2)]) token := fun token h =>
    absurd (hvalue.symm.trans h.1) nofun
  have htakes : Takes nextInterface numberedResponses 0 [] _ [[.ofInt 1]] :=
    .last hbody (.array (by decide +kernel)) hend
  refine ⟨htakes.fetchAll_run rfl (Nat.le_of_ble_eq_true rfl), hbody, ?_⟩
  exact (not_isLast_iff hend).2 ⟨_, hvalue, nofun, rfl⟩

end PageInterface

end Pushdown.Http
