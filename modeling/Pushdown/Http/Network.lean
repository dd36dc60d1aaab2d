import Pushdown.Error
import Pushdown.Http.Address
import Pushdown.Json.Reader

/-!
# Requests and responses

A **network** answers requests. It may keep a state, and it may fail before there is any response.
What a response means is the same for every interface here: one status asks for fewer requests, any
other status outside the two hundreds is a refusal, and the body of the rest is JSON.
-/

namespace Pushdown.Http

/-! ### Conversations -/

/-- **A request.** One with a body sends it; one without only asks. -/
structure Request where
  /-- The text of the address. -/
  address : String
  /-- Parameters that follow those of the address. -/
  parameters : Option (List (String × String))
  /-- The token that authorises the request. -/
  bearer : Option String
  /-- What is sent. -/
  body : Option Json

/-- A request that only asks. -/
def Request.get (address : String) : Request := ⟨address, none, none, none⟩

/-- **The address that a request goes to**, if its text names one. -/
def Request.target? (r : Request) : Option Address :=
  (Address.read? r.address).map fun a =>
    match r.parameters with
    | some parameters => a.withParameters parameters
    | none => a

/-- **A response.** -/
structure Response where
  /-- The status code. -/
  status : Nat
  /-- The body. -/
  body : String

/-- **A network**: a response to every request, or a failure. -/
abbrev Network (σ : Type) := Request → StateM σ (Except FetchError Response)

/-- The network that nothing gets through. A request without an address to go to is not even
sent. -/
def Network.offline {σ : Type} : Network σ := fun request =>
  pure (.error (.transport
    (match request.target? with
    | none => "builder error"
    | some a =>
      (if a.isReachable then "error sending request" else "builder error") ++
        " for url (" ++ a.text ++ ")")))

/-- **The JSON of a response.** -/
def Response.json (r : Response) : Except FetchError Json :=
  if r.status = 429 then .error .rateLimited
  else if r.status < 200 ∨ 300 ≤ r.status then .error (.status r.status r.body)
  else
    match Json.read? r.body with
    | some v => .ok v
    | none => .error (.decode "error decoding response body")

/-- The JSON that a request is answered with. -/
def Network.json {σ : Type} (network : Network σ) (request : Request) :
    StateM σ (Except FetchError Json) := do
  return (← network request).bind Response.json

end Pushdown.Http
