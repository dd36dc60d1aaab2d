import Pushdown.Remote.Fetch

/-!
# Vector stores

A vector store holds collections of entities, and is worked with over a connection: connect, ask or
change, disconnect. `withConnection` brackets a piece of work by a connection. Whatever the work
comes to, a connection that was made is given up exactly once; one that was not made is not given
up.
-/

namespace Pushdown

open Number

/-- **A reading of a collection**: a filtered scan, or a search for the neighbours of a vector. -/
structure StoreQuery where
  /-- The collection. -/
  collection : String
  /-- The filter. -/
  filter : Option String
  /-- The vector whose neighbours are searched. -/
  vector : Option (List Double)
  /-- The fields to return. -/
  outputFields : List String
  /-- How many entities to return. -/
  limit : Option Nat
  /-- How many entities to skip. -/
  offset : Option Nat
  deriving DecidableEq, Repr

/-- **A call to a store.** -/
inductive Call where
  /-- Make a connection. -/
  | connect
  /-- Give the connection up. -/
  | disconnect
  /-- Find entities. -/
  | query (query : StoreQuery)
  /-- Add records to a collection. -/
  | insert (collection : String) (records : List Record)
  /-- Remove the entities of a collection that meet a filter. -/
  | delete (collection filter : String)

/-- **A vector store**, on a state: for every call there is, what it does. -/
structure Store (σ : Type) where
  /-- Makes a connection. -/
  connect : Action σ Unit
  /-- Gives a connection up. -/
  disconnect : StateM σ Unit
  /-- The entities that a reading finds. -/
  query : StoreQuery → StateM σ (Except FetchError (List Json))
  /-- Adds records to a collection, and says how many. -/
  insert : String → List Record → StateM σ (Except FetchError Nat)
  /-- Removes the entities of a collection that meet a filter, and says how many. -/
  delete : String → String → StateM σ (Except FetchError Nat)

/-- **Work over a connection.** -/
def Store.withConnection {σ α : Type} (store : Store σ) (work : Action σ α) : Action σ α := do
  store.connect
  ExceptT.mk do
    let outcome ← work.run
    store.disconnect
    return outcome

/-- A call to a store as part of a statement. -/
def Store.call {σ α : Type} (work : StateM σ (Except FetchError α)) : Action σ α :=
  ExceptT.mk do
    match ← work with
    | .ok a => return .ok a
    | .error e => return .error (.remoteFetch 0 0 e)

end Pushdown
