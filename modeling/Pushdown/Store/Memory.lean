import Pushdown.Json.Writer
import Pushdown.Store.Store
import Pushdown.Text.Blank

/-!
# A store in memory

A store that keeps the records of its collections in order, understands filters of the form
`(field == value)`, and can be told to fail. It counts the connections made and given up, and
reports every call to a listener before it carries it out. It stands in for a store wherever a run
has to be repeatable.
-/

namespace Pushdown

/-- **A store in memory.** -/
structure MemoryStore where
  /-- The records, in order. -/
  rows : List Record
  /-- What every reading finds, if that is fixed. -/
  hits : Option (List Json)
  /-- Why no connection can be made. -/
  refusal : Option String
  /-- Why readings fail. -/
  queryFailure : Option FetchError
  /-- Why insertions fail. -/
  insertFailure : Option FetchError
  /-- Why removals fail. -/
  deleteFailure : Option FetchError
  /-- How many connections were made. -/
  opened : Nat
  /-- How many connections were given up. -/
  closed : Nat

namespace MemoryStore

/-- A text without the parentheses around it, if there are two. -/
def unwrapped (cs : List Char) : List Char :=
  match cs with
  | '(' :: rest =>
    match rest.reverse with
    | ')' :: inner => inner.reverse
    | _ => cs
  | _ => cs

/-- The field and the value text of a filter that asks for equality. -/
def equalityOf? : (before : List Char) → List Char → Option (List Char × List Char)
  | _, [] => none
  | before, c :: cs =>
    match Text.dropLeading " == ".toList (c :: cs) with
    | some value => some (before.reverse, value)
    | none => equalityOf? (c :: before) cs

/-- **A record meets a filter**: the value of the field has the text that the filter gives. -/
def meets (filter : String) (row : Record) : Bool :=
  match equalityOf? [] (unwrapped filter.toList) with
  | some (name, value) =>
    (Record.get? row (String.ofList name)).any fun v => v.text.toList == value
  | none => false

/-- What a reading finds: every record that meets the filter. -/
def found (s : MemoryStore) (filter : Option String) : List Json :=
  match s.hits with
  | some hits => hits
  | none => (s.rows.filter fun row => filter.all (meets · row)).map .object

/-- An outcome that a failure goes before. -/
def outcomeAfter {α : Type} (failure : Option FetchError) (a : α) : Except FetchError α :=
  match failure with
  | some e => .error e
  | none => .ok a

/-- **The store behind a place in a state**: how to see it, how to change it, and how to report a
call. -/
def store {σ : Type} (see : σ → MemoryStore) (change : (MemoryStore → MemoryStore) → σ → σ)
    (report : Call → σ → σ) : Store σ where
  connect := do
    modify (report .connect)
    match (see (← get)).refusal with
    | some cause => throw (.connection cause)
    | none => modify (change fun s => { s with opened := s.opened + 1 })
  disconnect := do
    modify (report .disconnect)
    modify (change fun s => { s with closed := s.closed + 1 })
  query q := do
    modify (report (.query q))
    let s := see (← get)
    return outcomeAfter s.queryFailure (s.found q.filter)
  insert collection rows := do
    modify (report (.insert collection rows))
    let s := see (← get)
    if s.insertFailure.isNone then modify (change fun s => { s with rows := s.rows ++ rows })
    return outcomeAfter s.insertFailure rows.length
  delete collection filter := do
    modify (report (.delete collection filter))
    let s := see (← get)
    let (gone, kept) := s.rows.partition (meets filter)
    if s.deleteFailure.isNone then modify (change fun s => { s with rows := kept })
    return outcomeAfter s.deleteFailure gone.length

end MemoryStore

end Pushdown
