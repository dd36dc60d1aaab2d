/-!
# Patterns with wildcards

A pattern is matched against a whole text, character by character: `%` stands for any run of
characters, `_` for any one character, and every other character for itself.

`Wildcard.Matches` says this as a relation. The function works on the text from its end. For every
suffix of the text it keeps, for every suffix of the pattern, whether the one matches the other, so
that the work is the product of the two lengths however many runs a pattern has.

A pattern has a **size**, and whoever accepts patterns may refuse one that is too large. It is the
room for the states of two automata over the bytes of a text, one that reads it from its start and
one from its end. A byte takes one state. A wildcard takes the states for every sequence of bytes
that is one character, and more of them from the end, where the length of a character is only known
once its first byte is reached.
-/

namespace Pushdown.Wildcard

/-- **A pattern matches a text.** -/
inductive Matches : (pattern text : List Char) → Prop where
  /-- Nothing matches nothing. -/
  | nil : Matches [] []
  /-- A run can be empty. -/
  | runEnd {p t : List Char} : Matches p t → Matches ('%' :: p) t
  /-- A run can go on. -/
  | runMore {p t : List Char} (c : Char) : Matches ('%' :: p) t → Matches ('%' :: p) (c :: t)
  /-- One wildcard takes one character. -/
  | any {p t : List Char} (c : Char) : Matches p t → Matches ('_' :: p) (c :: t)
  /-- A character takes itself. -/
  | self {p t : List Char} (c : Char) : c ≠ '%' → c ≠ '_' → Matches p t → Matches (c :: p) (c :: t)

/-- Which suffixes of a pattern match the empty text, the longest first. -/
def emptyRow : List Char → List Bool
  | [] => [true]
  | d :: p =>
    let rest := emptyRow p
    (d == '%' && rest.headD false) :: rest

/-- Which suffixes of a pattern match a text one character longer, from those that match without
that character. -/
def stepRow (c : Char) : (pattern : List Char) → (shorter : List Bool) → List Bool
  | [], _ => [false]
  | _ :: _, [] => []
  | d :: p, here :: below =>
    let rest := stepRow c p below
    (if d = '%' then rest.headD false || here else (d == '_' || d == c) && below.headD false) ::
      rest

/-- Which suffixes of a pattern match a text. -/
def row (pattern text : List Char) : List Bool :=
  text.foldr (fun c shorter => stepRow c pattern shorter) (emptyRow pattern)

/-- **Whether a pattern matches a text.** -/
def test (pattern text : String) : Bool :=
  (row pattern.toList text.toList).headD false

/-! ### Size -/

/-- The room for an automaton: what it takes by itself, for any one character, for a run of them,
and for a byte. -/
structure AutomatonRoom where
  /-- The room that the automaton of the empty pattern takes. -/
  empty : Nat
  /-- The room for any one character. -/
  any : Nat
  /-- The room for a run. -/
  run : Nat
  /-- The room for a byte. -/
  byte : Nat

/-- The room for an automaton that reads a text from its start. -/
def fromStart : AutomatonRoom := ⟨192, 416, 456, 32⟩

/-- The room for an automaton that reads a text from its end. -/
def fromEnd : AutomatonRoom := ⟨128, 964, 1004, 32⟩

/-- The room for the automaton of a pattern. -/
def AutomatonRoom.of (room : AutomatonRoom) (pattern : List Char) : Nat :=
  pattern.foldl (fun size c =>
    size + if c = '%' then room.run else if c = '_' then room.any else room.byte * c.utf8Size)
    room.empty

/-- **The size of a pattern**: the room for the larger of its automata. -/
def size (pattern : String) : Nat :=
  max (fromStart.of pattern.toList) (fromEnd.of pattern.toList)

end Pushdown.Wildcard
