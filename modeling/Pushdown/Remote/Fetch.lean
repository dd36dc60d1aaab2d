import Pushdown.Plan

/-!
# Collecting pages

A remote side delivers its records in pages. A page may carry a **token**, with which the next page
is asked for; a page without a token, or with an empty one, is the last. `fetchAll` asks for page
after page and puts the records together. It stops early once as many records are held as the
request needs, and drops what is beyond.

If a page fails, the whole collection fails and nothing is returned. A token that comes back a
second time would lead into a circle and fails too. So no page is asked for twice, and a remote side
with finitely many tokens is asked finitely often; `fetchWithin` states the number of requests as an
allowance, and has no result only if the allowance was too small.

A remote side may remember what it was asked: a `Source` acts on a state of some type `σ`.
-/

namespace Pushdown

open Number

/-! ### Sources -/

/-- **One page of records.** -/
structure Page where
  /-- The records. -/
  records : List Json
  /-- The token of the next page. -/
  next : Option String

/-- A page that is the last. -/
def Page.last (records : List Json) : Page := ⟨records, none⟩

/-- The token to go on with: an empty one does not count. -/
def Page.continuation (p : Page) : Option String := p.next.filter fun t => !t.isEmpty

/-- **An action that can fail**, on a state. The state is kept if it fails. -/
abbrev Action (σ α : Type) := ExceptT QueryError (StateM σ) α

/-- **A remote side**: the page for a request and a token, the first page if there is no token. -/
abbrev Source (σ : Type) := RemoteRequest → Option String → StateM σ (Except FetchError Page)

/-- A source that delivers the same records as its only page. -/
def Source.ofRecords {σ : Type} (records : List Json) : Source σ :=
  fun _ _ => pure (.ok (.last records))

/-! ### Progress -/

/-- **How far a collection has come.** -/
structure Progress where
  /-- The number of pages before. -/
  page : Nat
  /-- The token of the page to ask for. -/
  token : Option String
  /-- The tokens used so far. -/
  used : List String
  /-- The records held. -/
  held : List Json

/-- The start: no page, no record. -/
def Progress.start : Progress := ⟨0, none, [], []⟩

/-- What a page leads to. -/
inductive Step where
  /-- The collection is over. -/
  | done (outcome : Except QueryError (List Json))
  /-- There is a further page to ask for. -/
  | more (next : Progress)

/-- As many records are held as are needed. -/
def enough (maxRecords : Option Nat) (held : List Json) : Bool :=
  maxRecords.any fun most => most ≤ held.length

/-- **What a page that came leads to.** -/
def Progress.advance (p : Progress) (maxRecords : Option Nat) (page : Page) : Step :=
  let held := p.held ++ page.records
  -- enough records end the collection even if the page carries a token that was used before
  if enough maxRecords held then .done (.ok (held.take (maxRecords.getD 0)))
  else
    match page.continuation with
    | none => .done (.ok held)
    | some token =>
      if p.used.contains token then
        .done (.error (.remoteFetch p.page held.length
          (.protocol ("continuation token '" ++ token ++ "' returned twice"))))
      else .more ⟨p.page + 1, some token, p.used ++ [token], held⟩

/-- **What an answer leads to.** -/
def Progress.step (p : Progress) (maxRecords : Option Nat) : Except FetchError Page → Step
  | .ok page => p.advance maxRecords page
  | .error e => .done (.error (.remoteFetch p.page p.held.length e))

/-! ### Collection -/

/-- **The collection from some progress on**, with at most `allowance` further requests. -/
def fetchFrom {σ : Type} (source : Source σ) (request : RemoteRequest) :
    (allowance : Nat) → Progress → StateM σ (Option (Except QueryError (List Json)))
  | 0, _ => pure none
  | allowance + 1, p => do
    let answer ← source request p.token
    match p.step request.maxRecords answer with
    | .done outcome => pure (some outcome)
    | .more next => fetchFrom source request allowance next

/-- The collection with at most `allowance` requests; none if they do not suffice. -/
def fetchWithin {σ : Type} (source : Source σ) (request : RemoteRequest) (allowance : Nat) :
    StateM σ (Option (Except QueryError (List Json))) :=
  fetchFrom source request allowance .start

/-- The number of pages that a collection may have; a page counter has no more values. -/
def pageAllowance : Nat := 18446744073709551616

/-- **All records of a request**, up to the number needed. -/
def fetchAll {σ : Type} (source : Source σ) (request : RemoteRequest) : Action σ (List Json) :=
  ExceptT.mk do
    match ← fetchWithin source request pageAllowance with
    | some outcome => pure outcome
    | none => pure (.error (.remoteFetch pageAllowance 0 (.protocol "the pages have no end")))

/-! ### Scripted sources

A scripted source has its pages written down. It stands in for a remote side wherever a run has to
be repeatable, and it reports every request to a listener before it answers. -/

/-- **One page of a script.** -/
structure ScriptedPage where
  /-- The token that the page answers, none for the first page. -/
  token : Option String
  /-- What the page answers. -/
  answer : Except FetchError Page

/-- The answer of a script to a token: the first page written for it. -/
def scriptedAnswer (pages : List ScriptedPage) (token : Option String) : Except FetchError Page :=
  match pages.find? (·.token == token) with
  | some page => page.answer
  | none =>
    .error (.protocol (match token with
      | some t => "no page for " ++ t
      | none => "no page for the first request"))

/-- **A source that follows a script**, and reports what it is asked. -/
def Source.scripted {σ : Type} (pages : List ScriptedPage)
    (report : Option String → RemoteRequest → σ → σ) : Source σ :=
  fun request token => do
    modify (report token request)
    return scriptedAnswer pages token

end Pushdown
