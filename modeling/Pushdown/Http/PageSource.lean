import Pushdown.Http.Network
import Pushdown.Json.Value
import Pushdown.Remote.Fetch

/-!
# Pages over a network

An interface that delivers pages is described by where things are: its address, the parameters of
every request, the place of the records in a response, and the place and the use of the token. The
token is either a parameter of the next request or the whole address of the next page.

A response whose records are missing or null is a page without records; anything but an array in
their place is an error.
-/

namespace Pushdown.Http

open Number

/-- **How a token is handed back.** -/
inductive Continuation where
  /-- As a parameter of this name. -/
  | parameter (name : String)
  /-- The token is the address of the next page. -/
  | address
  deriving DecidableEq, Repr

/-- **An interface that delivers pages.** -/
structure PageInterface where
  /-- The address. -/
  endpoint : String
  /-- Parameters of every request. -/
  fixed : List (String × String)
  /-- Where the records are. -/
  itemsAt : String
  /-- Where the token is. -/
  nextAt : Option String
  /-- How the token is handed back. -/
  continuation : Continuation
  /-- The parameter that carries a limit. -/
  limitParameter : Option String
  deriving DecidableEq, Repr

namespace PageInterface

/-- The interface at an address, with its records under `items` and no further pages. -/
def ofEndpoint (endpoint : String) : PageInterface := ⟨endpoint, [], "/items", none, .address, none⟩

/-- The parameter for the limit of a request. -/
def limitEntry (i : PageInterface) (request : RemoteRequest) : List (String × String) :=
  match i.limitParameter, request.limit with
  | some name, some limit => [(name, intText limit)]
  | _, _ => []

/-- The parameter for a token. -/
def tokenEntry (i : PageInterface) (token : Option String) : List (String × String) :=
  match i.continuation, token with
  | .parameter name, some t => [(name, t)]
  | _, _ => []

/-- **The parameters of a request**: the fixed ones, the filter, the limit, the token. -/
def parameters (i : PageInterface) (request : RemoteRequest) (token : Option String) :
    List (String × String) :=
  i.fixed ++ (request.filter.map TargetFilter.entries).getD [] ++ i.limitEntry request ++
    i.tokenEntry token

/-- The request for a page. -/
def call (i : PageInterface) (request : RemoteRequest) (token : Option String) : Request :=
  match i.continuation, token with
  | .address, some next => .get next
  | _, _ => { Request.get i.endpoint with parameters := some (i.parameters request token) }

/-- The records of a response. -/
def items (i : PageInterface) (body : Json) : Except FetchError (List Json) :=
  match body.at? i.itemsAt with
  | none => .ok []
  | some .null => .ok []
  | some (.array items) => .ok items
  | some _ => .error (.decode ("expected an array at '" ++ i.itemsAt ++ "'"))

/-- The token in a response, which is a text. -/
def nextToken (i : PageInterface) (body : Json) : Option String :=
  (i.nextAt.bind body.at?).bind Json.string?

/-- **The page in a response.** -/
def page (i : PageInterface) (body : Json) : Except FetchError Page :=
  (i.items body).map fun records => ⟨records, i.nextToken body⟩

/-- **The source behind an interface.** -/
def source {σ : Type} (i : PageInterface) (network : Network σ) : Source σ :=
  fun request token => do
    return (← network.json (i.call request token)).bind i.page

end PageInterface

end Pushdown.Http
