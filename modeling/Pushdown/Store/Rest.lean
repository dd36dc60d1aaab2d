import Pushdown.Http.Network
import Pushdown.Store.Store

/-!
# A store over a network

The interface of a vector store: every call is a request with a JSON body to the address of the
call. A reply carries a code, zero for success, and the data.
-/

namespace Pushdown.RestStore

open Http

/-- **A store at an address**, with the token that authorises its calls. -/
structure Endpoint where
  /-- The address, without slashes at its end. -/
  address : String
  /-- The token. -/
  token : Option String
  deriving DecidableEq, Repr

/-- A text without the slashes at its end. -/
def withoutSlashes (s : String) : String :=
  String.ofList (s.toList.reverse.dropWhile (· == '/')).reverse

/-- The endpoint at an address. -/
def Endpoint.ofAddress (address : String) (token : Option String) : Endpoint :=
  ⟨withoutSlashes address, token⟩

/-- The value under a key of an object. -/
def member? (v : Json) (key : String) : Option Json :=
  match v with
  | .object entries => Record.get? entries key
  | _ => none

/-- A code as a status: what does not fit is the greatest. -/
def statusOf (code : Int) : Nat :=
  if 0 ≤ code ∧ code < 65536 then code.toNat else 65535

/-- An integer within sixty-four bits with sign. -/
def int64? (v : Json) : Option Int := v.int?.filter Number.fitsInt64

/-- **The data of a reply.** A reply without a code is a success. -/
def replyData (reply : Json) : Except FetchError Json :=
  match (member? reply "code").bind int64? with
  | none => .ok ((member? reply "data").getD .null)
  | some 0 => .ok ((member? reply "data").getD .null)
  | some code =>
    .error (.status (statusOf code) (((member? reply "message").bind Json.string?).getD ""))

/-- **A call.** -/
def post {σ : Type} (network : Network σ) (e : Endpoint) (call : String) (body : Json) :
    StateM σ (Except FetchError Json) := do
  let request : Request :=
    ⟨e.address ++ "/v2/vectordb/entities/" ++ call, none, e.token, some body⟩
  return (← network.json request).bind replyData

/-- The body of a reading. -/
def queryBody (q : StoreQuery) : Json :=
  .object (
    [("collectionName", .string q.collection),
      ("outputFields", .array (q.outputFields.map .string)),
      ("filter", .string (q.filter.getD ""))] ++
    (match q.vector with
      | some v =>
        [("data", .array [.array (v.map .ofDouble)]), ("annsField", .string "embeddings")]
      | none => []) ++
    (match q.limit with
      | some n => [("limit", .ofNat n)]
      | none => []) ++
    (match q.offset with
      | some n => [("offset", .ofNat n)]
      | none => []))

/-- The entities in the data of a reading. -/
def entities : Json → Except FetchError (List Json)
  | .array rows => .ok rows
  | .null => .ok []
  | v => .error (.decode ("expected a list of entities, got " ++ v.text))

/-- A count in the data of a call, zero if there is none. -/
def countIn (data : Json) (key : String) : Nat := ((member? data key).bind Json.nat?).getD 0

/-- **The store at an endpoint.** A connection needs no conversation. -/
def store {σ : Type} (network : Network σ) (e : Endpoint) : Store σ where
  connect := pure ()
  disconnect := pure ()
  query q := do
    let call := if q.vector.isSome then "search" else "query"
    return (← post network e call (queryBody q)).bind entities
  insert collection rows := do
    let body := Json.object
      [("collectionName", .string collection), ("data", .array (rows.map .object))]
    return (← post network e "insert" body).map (countIn · "insertCount")
  delete collection filter := do
    let body := Json.object [("collectionName", .string collection), ("filter", .string filter)]
    return (← post network e "delete" body).map (countIn · "deleteCount")

end Pushdown.RestStore
