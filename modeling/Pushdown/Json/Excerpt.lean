import Pushdown.Json.Reader

/-!
# Reading an excerpt of JSON text

Whoever needs only some entries of a text says which, and the rest is skipped. What is skipped only
has to have the form of a value: its containers may nest to any depth, its numbers may be too large
to be held and its texts may hold halves of surrogate pairs, because none of that is ever looked at.
What is read is read as strictly as a whole text.

Skipping holds the containers that are open in a list, innermost first, and not on a stack of its
own, so that depth costs nothing.
-/

namespace Pushdown.Json

/-! ### Skipping -/

/-- Skips the characters up to the closing quote. Each escape counts by itself. -/
def skipQuoted : List Char → Except ReadError (List Char)
  | [] => .error .endOfText
  | '"' :: rest => .ok rest
  | '\\' :: 'u' :: a :: b :: c :: d :: rest =>
    if (unit? a b c d).isSome then skipQuoted rest else .error .badEscape
  | '\\' :: c :: rest =>
    if (escaped? c).isSome then skipQuoted rest else .error .badEscape
  | c :: rest => if c.toNat < 0x20 then .error .controlCharacter else skipQuoted rest

/-- Skips the key of an entry and its colon. -/
def skipKey (cs : List Char) : Except ReadError (List Char) :=
  match skipBlanks cs with
  | '"' :: rest => (skipQuoted rest).bind (expectChar ':')
  | rest => .error (unexpectedAt rest)

/-- **A container that is open**, by its kind. -/
inductive Enclosure where
  /-- An array. -/
  | array
  /-- An object. -/
  | object
  deriving DecidableEq, Repr

/-- Skips what stands in front of the next value of a container: the key, in an object. -/
def Enclosure.skipToValue : Enclosure → List Char → Except ReadError (List Char)
  | .array, cs => .ok cs
  | .object, cs => skipKey cs

/-- The character that closes a container. -/
def Enclosure.closing : Enclosure → Char
  | .array => ']'
  | .object => '}'

/-- Skips a value that is no container, behind its first character. -/
def skipScalar (first : Char) (rest : List Char) : Except ReadError (List Char) :=
  if first = '"' then skipQuoted rest
  else if first = 'n' then (readWord "ull" () rest).map (·.2)
  else if first = 't' then (readWord "rue" () rest).map (·.2)
  else if first = 'f' then (readWord "alse" () rest).map (·.2)
  else if first = '-' ∨ first.isDigit then (readNumeral (first :: rest)).map (·.2)
  else .error (.unexpected first)

/-- The container that a character opens. -/
def opened? : Char → Option Enclosure
  | '[' => some .array
  | '{' => some .object
  | _ => none

mutual
/-- **Skips a value** and what closes the containers around it. -/
def skipWithin : (allowance : Nat) → (around : List Enclosure) → List Char →
    Except ReadError (List Char)
  | 0, _, _ => .error .endOfText
  | allowance + 1, around, cs =>
    match skipBlanks cs with
    | [] => .error .endOfText
    | c :: rest =>
      match opened? c with
      | some e =>
        if (skipBlanks rest).head? = some e.closing then
          closeWithin allowance around ((skipBlanks rest).drop 1)
        else
          match e.skipToValue rest with
          | .error cause => .error cause
          | .ok rest => skipWithin allowance (e :: around) rest
      | none =>
        match skipScalar c rest with
        | .error cause => .error cause
        | .ok rest => closeWithin allowance around rest
/-- Skips what follows a value in the containers around it, up to the end of the outermost. -/
def closeWithin : (allowance : Nat) → (around : List Enclosure) → List Char →
    Except ReadError (List Char)
  | 0, _, _ => .error .endOfText
  | _ + 1, [], cs => .ok cs
  | allowance + 1, e :: around, cs =>
    match skipBlanks cs with
    | [] => .error .endOfText
    | c :: rest =>
      if c = ',' then
        match e.skipToValue rest with
        | .error cause => .error cause
        | .ok rest => skipWithin allowance (e :: around) rest
      else if c = e.closing then closeWithin allowance around rest
      else .error (.unexpected c)
end

/-- Skips a value. -/
def skipValue (cs : List Char) : Except ReadError (List Char) :=
  skipWithin (2 * cs.length + 2) [] cs

/-! ### Excerpts -/

/-- **What of a value is read.** -/
inductive Selection where
  /-- All of it. -/
  | whole
  /-- Nothing of it. -/
  | nothing
  /-- Of an object the entries with these names, of an array the items in the same order. -/
  | fields (parts : List (String × Selection))
  /-- Every entry of an object, each in part. -/
  | entries (part : Selection)

/-- What is read of the entry with a name. -/
def Selection.entry : Selection → String → Selection
  | .whole, _ => .whole
  | .nothing, _ => .nothing
  | .fields parts, name => ((parts.find? (·.1 == name)).map (·.2)).getD .nothing
  | .entries part, _ => part

/-- What is read of the item at a place. -/
def Selection.item : Selection → Nat → Selection
  | .nothing, _ => .nothing
  | .fields parts, i => (parts[i]?.map (·.2)).getD .whole
  | _, _ => .whole

mutual
/-- **The selected part of a value**, after blanks. `depth` containers may still be opened. -/
def readExcerpt : (allowance depth : Nat) → Selection → List Char →
    Except ReadError (Json × List Char)
  | 0, _, _, _ => .error .endOfText
  | allowance + 1, depth, part, cs =>
    match part with
    | .nothing => (skipValue cs).map fun rest => (.null, rest)
    | .whole => readValue allowance depth cs
    | part =>
      match skipBlanks cs, depth with
      | '[' :: _, 0 => .error .tooDeep
      | '{' :: _, 0 => .error .tooDeep
      | '[' :: rest, depth + 1 =>
        match skipBlanks rest with
        | ']' :: rest => .ok (.array [], rest)
        | rest => do
          let (items, rest) ← excerptItems allowance depth part 0 rest
          return (.array items, rest)
      | '{' :: rest, depth + 1 =>
        match skipBlanks rest with
        | '}' :: rest => .ok (.object [], rest)
        | rest => do
          let (entries, rest) ← excerptEntries allowance depth part rest
          return (.object entries, rest)
      | rest, depth => readValue allowance depth rest
/-- The selected parts of the items of an array from a place on. -/
def excerptItems : (allowance depth : Nat) → Selection → (place : Nat) → List Char →
    Except ReadError (List Json × List Char)
  | 0, _, _, _, _ => .error .endOfText
  | allowance + 1, depth, part, place, cs => do
    let (item, rest) ← readExcerpt allowance depth (part.item place) cs
    match skipBlanks rest with
    | ',' :: rest =>
      let (items, rest) ← excerptItems allowance depth part (place + 1) rest
      return (item :: items, rest)
    | ']' :: rest => return ([item], rest)
    | rest => throw (unexpectedAt rest)
/-- The selected parts of the entries of an object. -/
def excerptEntries : (allowance depth : Nat) → Selection → List Char →
    Except ReadError (List (String × Json) × List Char)
  | 0, _, _, _ => .error .endOfText
  | allowance + 1, depth, part, cs => do
    let (key, rest) ← readKey cs
    let rest ← expectChar ':' rest
    let (value, rest) ← readExcerpt allowance depth (part.entry key) rest
    match skipBlanks rest with
    | ',' :: rest =>
      let (entries, rest) ← excerptEntries allowance depth part rest
      return ((key, value) :: entries, rest)
    | '}' :: rest => return ([(key, value)], rest)
    | rest => throw (unexpectedAt rest)
end

/-- **The selected part of the value that a whole text writes**, repeated keys and all. What is not
selected is null. -/
def readPart (part : Selection) (cs : List Char) : Except ReadError Json := do
  let (value, rest) ← readExcerpt (3 * cs.length + 3) depthLimit part cs
  match skipBlanks rest with
  | [] => return value
  | _ => throw .trailing

end Pushdown.Json
