import Pushdown.Number.Decimal

/-!
# JSON values with ordered entries

The cells of a row, the literals of a statement and the payloads of a remote side are all JSON
values. Two points are kept that a looser model would lose. Integers are exact and apart from
numbers with a fraction: `1` and `1.0` are different values. And the entries of an object stand in
an order, which is visible wherever an object is written out or its keys become columns.

A `Record` is the entry list of an object. Its operations are those of an insertion-ordered map
whose removal is a *swap*: the last entry moves into the place of the removed one. The order
matters to whoever lists the entries afterwards, so removal is written to do exactly this.

Values that come from a reader or are built by these operations have pairwise distinct keys in
every object; `Json.WellFormed` says so.
-/

namespace Pushdown

open Number

/-- **A JSON number**: an exact integer, or a number with a fraction. -/
inductive JsonNumber where
  /-- An integer. Readers and writers keep it within `-2^63` and `2^64`, the end excluded. -/
  | int (value : Int)
  /-- A finite binary64 number. -/
  | float (value : Double)
  deriving DecidableEq, Repr

/-- **A JSON value.** The entries of an object are in order. -/
inductive Json where
  /-- The null value. -/
  | null
  /-- A truth value. -/
  | bool (value : Bool)
  /-- A number. -/
  | number (value : JsonNumber)
  /-- A text. -/
  | string (value : String)
  /-- A list of values. -/
  | array (items : List Json)
  /-- Keys with values, in order. -/
  | object (entries : List (String × Json))

/-- The entries of an object, or a row keyed by column name. -/
abbrev Record := List (String × Json)

/-! ### Equality -/

namespace Json

mutual
/-- Decides whether two values are the same tree, entry order included. -/
def decide? : (a b : Json) → Decidable (a = b)
  | .null, .null => isTrue rfl
  | .bool x, .bool y => if h : x = y then isTrue (h ▸ rfl) else isFalse fun e => h (Json.bool.inj e)
  | .number x, .number y =>
    if h : x = y then isTrue (h ▸ rfl) else isFalse fun e => h (Json.number.inj e)
  | .string x, .string y =>
    if h : x = y then isTrue (h ▸ rfl) else isFalse fun e => h (Json.string.inj e)
  | .array xs, .array ys =>
    match decideItems xs ys with
    | isTrue h => isTrue (h ▸ rfl)
    | isFalse h => isFalse fun e => h (Json.array.inj e)
  | .object xs, .object ys =>
    match decideEntries xs ys with
    | isTrue h => isTrue (h ▸ rfl)
    | isFalse h => isFalse fun e => h (Json.object.inj e)
  | .null, .bool _ | .null, .number _ | .null, .string _ | .null, .array _ | .null, .object _
  | .bool _, .null | .bool _, .number _ | .bool _, .string _ | .bool _, .array _
  | .bool _, .object _
  | .number _, .null | .number _, .bool _ | .number _, .string _ | .number _, .array _
  | .number _, .object _
  | .string _, .null | .string _, .bool _ | .string _, .number _ | .string _, .array _
  | .string _, .object _
  | .array _, .null | .array _, .bool _ | .array _, .number _ | .array _, .string _
  | .array _, .object _
  | .object _, .null | .object _, .bool _ | .object _, .number _ | .object _, .string _
  | .object _, .array _ => isFalse nofun
/-- Decides whether two lists of values are the same. -/
def decideItems : (xs ys : List Json) → Decidable (xs = ys)
  | [], [] => isTrue rfl
  | [], _ :: _ => isFalse nofun
  | _ :: _, [] => isFalse nofun
  | x :: xs, y :: ys =>
    match decide? x y, decideItems xs ys with
    | isTrue h, isTrue t => isTrue (h ▸ t ▸ rfl)
    | isFalse h, _ => isFalse fun e => h (List.cons.inj e).1
    | _, isFalse t => isFalse fun e => t (List.cons.inj e).2
/-- Decides whether two lists of entries are the same. -/
def decideEntries : (xs ys : List (String × Json)) → Decidable (xs = ys)
  | [], [] => isTrue rfl
  | [], _ :: _ => isFalse nofun
  | _ :: _, [] => isFalse nofun
  | (k, x) :: xs, (l, y) :: ys =>
    if hk : k = l then
      match decide? x y, decideEntries xs ys with
      | isTrue h, isTrue t => isTrue (hk ▸ h ▸ t ▸ rfl)
      | isFalse h, _ => isFalse fun e => h (Prod.mk.inj (List.cons.inj e).1).2
      | _, isFalse t => isFalse fun e => t (List.cons.inj e).2
    else isFalse fun e => hk (Prod.mk.inj (List.cons.inj e).1).1
end

instance : DecidableEq Json := decide?

/-- The empty value of the type. -/
instance : Inhabited Json := ⟨.null⟩

/-! ### Kinds and views -/

/-- The word for the kind of a value, as error messages use it. -/
def kind : Json → String
  | .null => "null"
  | .bool _ => "boolean"
  | .number _ => "number"
  | .string _ => "string"
  | .array _ => "array"
  | .object _ => "object"

/-- The value is null. -/
def isNull : Json → Bool
  | .null => true
  | _ => false

/-- The value is a number. -/
def isNumber : Json → Bool
  | .number _ => true
  | _ => false

/-- The value is a text. -/
def isString : Json → Bool
  | .string _ => true
  | _ => false

/-- The value is an array or an object. -/
def isContainer : Json → Bool
  | .array _ => true
  | .object _ => true
  | _ => false

/-- The text of a text value. -/
def string? : Json → Option String
  | .string s => some s
  | _ => none

/-- The integer of an integer value. -/
def int? : Json → Option Int
  | .number (.int i) => some i
  | _ => none

/-- The natural number of an integer value that is not negative. -/
def nat? : Json → Option Nat
  | .number (.int i) => if 0 ≤ i then some i.toNat else none
  | _ => none

/-- A text value. -/
instance : Coe String Json := ⟨.string⟩

/-- An integer value. -/
def ofInt (i : Int) : Json := .number (.int i)

/-- An integer value. -/
def ofNat (n : Nat) : Json := .number (.int n)

/-- A number value, or null if the number is infinite or a NaN. -/
def ofDouble (x : Double) : Json := if x.isFinite then .number (.float x) else .null

@[simp] theorem isNull_null : isNull .null = true := rfl

theorem isNull_iff {v : Json} : v.isNull = true ↔ v = .null := by
  cases v <;> simp [isNull]

end Json

/-- The nearest binary64 number. -/
def JsonNumber.toDouble : JsonNumber → Double
  | .int i => .ofInt i
  | .float x => x

/-- Equality of numbers as values: integers and numbers with a fraction are never equal, and the two
zeros with a fraction are. -/
def JsonNumber.same : JsonNumber → JsonNumber → Bool
  | .int i, .int j => i == j
  | .float x, .float y => x.sameValue y
  | _, _ => false

/-! ### Records -/

namespace Record

/-- The keys, in order. -/
def keys (r : Record) : List String := r.map Prod.fst

/-- The value under a key. -/
def get? : Record → String → Option Json
  | [], _ => none
  | (k, v) :: r, key => if k = key then some v else get? r key

/-- Sets the value under a key: in its place if the key is there, at the end otherwise. -/
def insert : Record → String → Json → Record
  | [], key, value => [(key, value)]
  | (k, v) :: r, key, value =>
    if k = key then (k, value) :: r else (k, v) :: insert r key value

/-- Inserts entries one after another. -/
def insertAll (r : Record) (entries : List (String × Json)) : Record :=
  entries.foldl (fun r e => r.insert e.1 e.2) r

/-- **A record from entries**: a repeated key keeps its first place and its last value. -/
def ofList (entries : List (String × Json)) : Record := insertAll [] entries

/-- **Removal by swap**: the last entry moves into the place of the removed one. A key that is not
there changes nothing. -/
def swapRemove : Record → String → Record
  | [], _ => []
  | (k, v) :: r, key =>
    if k = key then
      match r.getLast? with
      | none => []
      | some last => last :: r.dropLast
    else (k, v) :: swapRemove r key

@[simp] theorem get?_nil (key : String) : get? [] key = none := rfl

theorem get?_cons (e : String × Json) (r : Record) (key : String) :
    get? (e :: r) key = if e.1 = key then some e.2 else get? r key := rfl

@[simp] theorem keys_nil : keys [] = [] := rfl

@[simp] theorem keys_cons (e : String × Json) (r : Record) : keys (e :: r) = e.1 :: keys r := rfl

/-- A key has a value exactly when it is one of the keys. -/
theorem get?_isSome_iff {r : Record} {key : String} : (get? r key).isSome ↔ key ∈ keys r := by
  induction r with
  | nil => simp
  | cons e r ih =>
    by_cases h : e.1 = key
    · simp [get?_cons, h]
    · simp [get?_cons, h, ih, Ne.symm h]

/-- After an insertion the key has the inserted value and every other key its old one. -/
theorem get?_insert (r : Record) (key : String) (value : Json) (key' : String) :
    get? (insert r key value) key' = if key = key' then some value else get? r key' := by
  induction r with
  | nil => simp [insert, get?_cons]
  | cons e r ih =>
    obtain ⟨k, v⟩ := e
    by_cases h : k = key
    · subst h
      by_cases h' : k = key' <;> simp [insert, get?_cons, h']
    · by_cases h' : k = key'
      · subst h'
        simp [insert, get?_cons, h, Ne.symm h]
      · simp [insert, get?_cons, h, h', ih]

/-- An insertion adds its key at the end, or leaves the keys as they are. -/
theorem keys_insert (r : Record) (key : String) (value : Json) :
    keys (insert r key value) = if key ∈ keys r then keys r else keys r ++ [key] := by
  induction r with
  | nil => simp [insert]
  | cons e r ih =>
    obtain ⟨k, v⟩ := e
    by_cases h : k = key
    · simp [insert, h]
    · simp only [insert, h, if_false, keys_cons, ih, List.mem_cons, Ne.symm h, false_or]
      split <;> simp

theorem nodup_keys_insert {r : Record} (h : (keys r).Nodup) (key : String) (value : Json) :
    (keys (insert r key value)).Nodup := by
  rw [keys_insert]
  split
  · exact h
  · next hk =>
    rw [List.nodup_append]
    refine ⟨h, by simp, ?_⟩
    intro a ha b hb
    rw [List.mem_singleton.1 hb]
    exact fun e => hk (e ▸ ha)

theorem nodup_keys_insertAll {r : Record} (h : (keys r).Nodup) (es : List (String × Json)) :
    (keys (insertAll r es)).Nodup := by
  induction es generalizing r with
  | nil => exact h
  | cons e es ih => exact ih (nodup_keys_insert h e.1 e.2)

/-- The keys of a record built from entries are pairwise distinct. -/
theorem nodup_keys_ofList (es : List (String × Json)) : (keys (ofList es)).Nodup :=
  nodup_keys_insertAll (r := []) (by simp) es

end Record

/-! ### Places inside a value

A pointer names a place inside a value by the keys and positions on the way to it, each behind a
slash; the empty pointer names the whole. Inside a key, `~1` stands for a slash and `~0` for a
tilde. A position in an array is a number without a leading zero. -/

namespace Json

/-- A step of a pointer with its two escapes undone. -/
def unescapedStep : List Char → List Char
  | '~' :: '1' :: cs => '/' :: unescapedStep cs
  | '~' :: '0' :: cs => '~' :: unescapedStep cs
  | c :: cs => c :: unescapedStep cs
  | [] => []

/-- The position that a step names in an array. -/
def position? : List Char → Option Nat
  | '0' :: _ :: _ => none
  | cs => Number.readNat? cs

/-- The value one step below a value. -/
def below? (v : Json) (step : List Char) : Option Json :=
  match v with
  | .object entries => Record.get? entries (String.ofList step)
  | .array items => (position? step).bind (items[·]?)
  | _ => none

/-- **The value that a pointer names**, if there is one. -/
def at? (v : Json) (pointer : String) : Option Json :=
  match pointer.toList with
  | [] => some v
  | '/' :: steps =>
    (Text.splitOn '/' steps).foldl (fun v? step => v?.bind (below? · (unescapedStep step))) (some v)
  | _ => none

/-- The value that a pointer names, null if there is none. -/
def atOrNull (v : Json) (pointer : String) : Json := (v.at? pointer).getD .null

end Json

/-! ### Equality as values -/

namespace Json

mutual
/-- **Equality of values**: objects are equal if they have the same keys with equal values, in
whatever order. -/
def same : Json → Json → Bool
  | .null, .null => true
  | .bool x, .bool y => x == y
  | .number x, .number y => x.same y
  | .string x, .string y => x == y
  | .array xs, .array ys => sameItems xs ys
  | .object xs, .object ys => xs.length == ys.length && sameEntries xs ys
  | _, _ => false
/-- Equality of lists of values, item by item. -/
def sameItems : List Json → List Json → Bool
  | [], [] => true
  | x :: xs, y :: ys => same x y && sameItems xs ys
  | _, _ => false
/-- Every entry of the first list has an equal one in the second. -/
def sameEntries : List (String × Json) → Record → Bool
  | [], _ => true
  | (k, x) :: xs, ys =>
    (match Record.get? ys k with
      | some y => same x y
      | none => false) && sameEntries xs ys
end

mutual
/-- **Well-formed values**: in every object, at every depth, the keys are pairwise distinct. -/
def WellFormed : Json → Prop
  | .array items => WellFormedItems items
  | .object entries => (Record.keys entries).Nodup ∧ WellFormedEntries entries
  | _ => True
/-- Every value of a list is well formed. -/
def WellFormedItems : List Json → Prop
  | [] => True
  | x :: xs => WellFormed x ∧ WellFormedItems xs
/-- Every value of a list of entries is well formed. -/
def WellFormedEntries : List (String × Json) → Prop
  | [] => True
  | (_, x) :: xs => WellFormed x ∧ WellFormedEntries xs
end

end Json

end Pushdown
