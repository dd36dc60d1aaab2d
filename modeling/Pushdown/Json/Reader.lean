import Pushdown.Json.Value
import Pushdown.Number.Decimal

/-!
# Reading JSON text

A strict reader: no trailing commas, no comments, no half of a surrogate pair, no control
characters inside a text, nothing after the value but blanks. Containers nest to a fixed depth, so
a hostile text cannot exhaust the reader. An integer that fits sixty-four bits is exact; every other
number becomes the nearest value that two roundings give, one for the digits and one for the power
of ten.

Each reading function returns the value and the characters behind it. Values are read by recursion
on an allowance that the length of the text always covers: every step of the recursion has used up
a character.
-/

namespace Pushdown.Json

open Number

/-! ### Failures -/

/-- **Why a text is not a JSON value.** -/
inductive ReadError where
  /-- The text ends inside a value. -/
  | endOfText
  /-- A character stands where it cannot. -/
  | unexpected (found : Char)
  /-- A text holds a control character. -/
  | controlCharacter
  /-- A backslash is followed by no known escape. -/
  | badEscape
  /-- Half of a surrogate pair stands alone. -/
  | loneSurrogate
  /-- A number is not written as JSON numbers are. -/
  | badNumber
  /-- A number is too large to be held. -/
  | numberOutOfRange
  /-- Containers nest too deeply. -/
  | tooDeep
  /-- Something follows the value. -/
  | trailing
  deriving DecidableEq, Repr

/-- The wording of a failure. -/
def ReadError.message : ReadError → String
  | .endOfText => "the text ends inside a value"
  | .unexpected c => "unexpected character " ++ String.ofList ['\'', c, '\'']
  | .controlCharacter => "control character inside a string"
  | .badEscape => "invalid escape"
  | .loneSurrogate => "lone surrogate in a string"
  | .badNumber => "invalid number"
  | .numberOutOfRange => "number out of range"
  | .tooDeep => "values nest too deeply"
  | .trailing => "trailing characters"

/-! ### Blanks and words -/

/-- The four blanks of JSON. -/
def isJsonBlank (c : Char) : Bool :=
  c == ' ' || c == '\n' || c == '\r' || c == '\t'

/-- Without the blanks at its start. -/
def skipBlanks (cs : List Char) : List Char := cs.dropWhile isJsonBlank

/-- The failure at the place where a character is missing or wrong. -/
def unexpectedAt : List Char → ReadError
  | [] => .endOfText
  | c :: _ => .unexpected c

/-- A fixed word. -/
def readWord {α : Type} (word : String) (value : α) (cs : List Char) :
    Except ReadError (α × List Char) :=
  match Text.dropLeading word.toList cs with
  | some rest => .ok (value, rest)
  | none => .error (unexpectedAt cs)

/-! ### Texts -/

/-- The sixteen-bit unit that four hexadecimal digits write. -/
def unit? (a b c d : Char) : Option Nat := do
  let a ← Number.hexValue? a
  let b ← Number.hexValue? b
  let c ← Number.hexValue? c
  let d ← Number.hexValue? d
  return ((a * 16 + b) * 16 + c) * 16 + d

/-- The character that a short escape stands for. -/
def escaped? : Char → Option Char
  | '"' => some '"'
  | '\\' => some '\\'
  | '/' => some '/'
  | 'b' => some '\x08'
  | 'f' => some '\x0c'
  | 'n' => some '\n'
  | 'r' => some '\r'
  | 't' => some '\t'
  | _ => none

/-- The first half of a surrogate pair. -/
def isHighSurrogate (u : Nat) : Bool := 0xD800 ≤ u && u < 0xDC00

/-- The second half of a surrogate pair. -/
def isLowSurrogate (u : Nat) : Bool := 0xDC00 ≤ u && u < 0xE000

/-- The character that a surrogate pair stands for. -/
def pairedChar (high low : Nat) : Char :=
  Char.ofNat (0x10000 + (high - 0xD800) * 0x400 + (low - 0xDC00))

/-- **The characters up to the closing quote**, after those already read, which are held in reverse.
-/
def readQuoted (reversed : List Char) : List Char → Except ReadError (String × List Char)
  | [] => .error .endOfText
  | '"' :: rest => .ok (String.ofList reversed.reverse, rest)
  | '\\' :: 'u' :: a :: b :: c :: d :: rest =>
    match unit? a b c d with
    | none => .error .badEscape
    | some u =>
      if isLowSurrogate u then .error .loneSurrogate
      else if isHighSurrogate u then
        match rest with
        | '\\' :: 'u' :: a :: b :: c :: d :: rest =>
          match unit? a b c d with
          | none => .error .badEscape
          | some v =>
            if isLowSurrogate v then readQuoted (pairedChar u v :: reversed) rest
            else .error .loneSurrogate
        | _ => .error .loneSurrogate
      else readQuoted (Char.ofNat u :: reversed) rest
  | '\\' :: c :: rest =>
    match escaped? c with
    | some c => readQuoted (c :: reversed) rest
    | none => .error .badEscape
  | c :: rest =>
    if c.toNat < 0x20 then .error .controlCharacter
    else readQuoted (c :: reversed) rest

/-! ### Numbers -/

/-- The pieces of a written number. -/
structure Numeral where
  /-- A minus stands in front. -/
  negative : Bool
  /-- The digits before the point. -/
  whole : List Char
  /-- The digits behind the point. -/
  fraction : List Char
  /-- The sign and the digits of the exponent. -/
  exponent : Option (Bool × List Char)

/-- The digits of the fraction, if a point opens one. -/
def readFraction : List Char → Except ReadError ((List Char) × List Char)
  | '.' :: cs =>
    match cs.takeWhile Char.isDigit with
    | [] => .error .badNumber
    | digits => .ok (digits, cs.dropWhile Char.isDigit)
  | cs => .ok ([], cs)

/-- The exponent behind its letter: a sign and at least one digit. -/
def readExponentDigits (negative : Bool) (cs : List Char) :
    Except ReadError (Option (Bool × List Char) × List Char) :=
  match cs.takeWhile Char.isDigit with
  | [] => .error .badNumber
  | digits => .ok (some (negative, digits), cs.dropWhile Char.isDigit)

/-- The exponent, if a letter opens one. -/
def readExponent : List Char → Except ReadError ((Option (Bool × List Char)) × List Char)
  | [] => .ok (none, [])
  | c :: cs =>
    if c = 'e' ∨ c = 'E' then
      match cs with
      | '-' :: cs => readExponentDigits true cs
      | '+' :: cs => readExponentDigits false cs
      | cs => readExponentDigits false cs
    else .ok (none, c :: cs)

/-- The pieces of a number: no leading zeros, and digits wherever digits belong. -/
def readNumeral (cs : List Char) : Except ReadError (Numeral × List Char) :=
  let (negative, cs) : Bool × List Char := match cs with
    | '-' :: cs => (true, cs)
    | cs => (false, cs)
  match cs.takeWhile Char.isDigit with
  | [] => .error .badNumber
  | '0' :: _ :: _ => .error .badNumber
  | whole => do
    let (fraction, cs) ← readFraction (cs.dropWhile Char.isDigit)
    let (exponent, cs) ← readExponent cs
    return (⟨negative, whole, fraction, exponent⟩, cs)

/-- **The digits that a significand of sixty-four bits takes**: leading digits as long as they fit,
and how many were taken. The first digit that does not fit and all behind it are left out. -/
def takeDigits (significand : Nat) : List Char → Nat × Nat
  | [] => (significand, 0)
  | c :: cs =>
    let next := 10 * significand + (c.toNat - '0'.toNat)
    if fitsNat64 next then
      let (result, taken) := takeDigits next cs
      (result, taken + 1)
    else (significand, 0)

/-- Ten to a power, as the nearest number. -/
def powerOfTen (k : Nat) : Double := .ofRatio false (tenPower k) 1

/-- **A significand scaled by a power of ten**, each rounded on its own. A significand of sixty-four
bits divided by more than two of the largest powers is zero, and one multiplied beyond the range is
refused. -/
def scaled (significand : Nat) (exponent : Int) : Except ReadError Double :=
  let x := Double.ofInt significand
  let k := exponent.natAbs
  if 0 ≤ exponent then
    if k ≤ 308 then
      let y := x.mul (powerOfTen k)
      if y.isFinite then .ok y else .error .numberOutOfRange
    else if significand = 0 then .ok .zero
    else .error .numberOutOfRange
  else if k ≤ 308 then .ok (x.div (powerOfTen k))
  else if k ≤ 616 then .ok ((x.div (powerOfTen 308)).div (powerOfTen (k - 308)))
  else .ok .zero

/-- The number that a numeral writes, off the integers. An exponent too long for thirty-two bits
decides by its sign alone. -/
def Numeral.double (n : Numeral) : Except ReadError Double := do
  let (significand, wholeTaken) := takeDigits 0 n.whole
  let (significand, fractionTaken) := takeDigits significand n.fraction
  let point : Int := (n.whole.length - wholeTaken : Nat) - (fractionTaken : Int)
  let magnitude ← match n.exponent with
    | none => scaled significand point
    | some (negativeExponent, digits) =>
      let exponent := ofDigits digits
      if 2147483648 ≤ exponent then
        if significand = 0 ∨ negativeExponent then .ok .zero else .error .numberOutOfRange
      else scaled significand (if negativeExponent then point - exponent else point + exponent)
  return if n.negative then magnitude.neg else magnitude

/-- **The value of a numeral.** Without fraction and exponent it is an exact integer as long as
sixty-four bits hold it; a negative zero is a number with a fraction. -/
def Numeral.value (n : Numeral) : Except ReadError Json :=
  let magnitude := ofDigits n.whole
  let isInteger : Bool := n.fraction == [] && n.exponent.isNone
  if isInteger && !n.negative && fitsNat64 magnitude then .ok (.number (.int magnitude))
  else if isInteger && n.negative && magnitude ≠ 0 && fitsInt64 (-(magnitude : Int)) then
    .ok (.number (.int (-(magnitude : Int))))
  else n.double.map fun x => .number (.float x)

/-- A number. -/
def readNumber (cs : List Char) : Except ReadError (Json × List Char) := do
  let (numeral, rest) ← readNumeral cs
  let value ← numeral.value
  return (value, rest)

/-! ### Values -/

/-- How deeply containers may nest. -/
def depthLimit : Nat := 127

/-- The quote that opens a key. -/
def readKey (cs : List Char) : Except ReadError (String × List Char) :=
  match skipBlanks cs with
  | '"' :: rest => readQuoted [] rest
  | rest => .error (unexpectedAt rest)

/-- A fixed character, after blanks. -/
def expectChar (c : Char) (cs : List Char) : Except ReadError (List Char) :=
  match skipBlanks cs with
  | [] => .error .endOfText
  | d :: rest => if c = d then .ok rest else .error (.unexpected d)

mutual
/-- **A value as written**, after blanks. `depth` containers may still be opened. -/
def readValue : (allowance depth : Nat) → List Char → Except ReadError (Json × List Char)
  | 0, _, _ => .error .endOfText
  | allowance + 1, depth, cs =>
    match skipBlanks cs with
    | [] => .error .endOfText
    | '"' :: rest => do
      let (s, rest) ← readQuoted [] rest
      return (.string s, rest)
    | '[' :: rest =>
      match depth with
      | 0 => .error .tooDeep
      | depth + 1 =>
        match skipBlanks rest with
        | ']' :: rest => .ok (.array [], rest)
        | rest => do
          let (items, rest) ← readItems allowance depth rest
          return (.array items, rest)
    | '{' :: rest =>
      match depth with
      | 0 => .error .tooDeep
      | depth + 1 =>
        match skipBlanks rest with
        | '}' :: rest => .ok (.object [], rest)
        | rest => do
          let (entries, rest) ← readEntries allowance depth rest
          return (.object entries, rest)
    | c :: rest =>
      if c = 'n' then readWord "ull" .null rest
      else if c = 't' then readWord "rue" (.bool true) rest
      else if c = 'f' then readWord "alse" (.bool false) rest
      else if c = '-' ∨ c.isDigit then readNumber (c :: rest)
      else .error (.unexpected c)
/-- The items of an array, up to its closing bracket. -/
def readItems : (allowance depth : Nat) → List Char → Except ReadError ((List Json) × List Char)
  | 0, _, _ => .error .endOfText
  | allowance + 1, depth, cs => do
    let (item, rest) ← readValue allowance depth cs
    match skipBlanks rest with
    | ',' :: rest =>
      let (items, rest) ← readItems allowance depth rest
      return (item :: items, rest)
    | ']' :: rest => return ([item], rest)
    | rest => throw (unexpectedAt rest)
/-- The entries of an object, up to its closing brace. -/
def readEntries : (allowance depth : Nat) → List Char →
    Except ReadError (List (String × Json) × List Char)
  | 0, _, _ => .error .endOfText
  | allowance + 1, depth, cs => do
    let (key, rest) ← readKey cs
    let rest ← expectChar ':' rest
    let (value, rest) ← readValue allowance depth rest
    match skipBlanks rest with
    | ',' :: rest =>
      let (entries, rest) ← readEntries allowance depth rest
      return ((key, value) :: entries, rest)
    | '}' :: rest => return ([(key, value)], rest)
    | rest => throw (unexpectedAt rest)
end

/-- **The value that a whole text writes**, with every entry of its objects, repeated keys and all.
Blanks may stand around it and nothing else. -/
def readAsWritten (cs : List Char) : Except ReadError Json := do
  let (value, rest) ← readValue (2 * cs.length + 2) depthLimit cs
  match skipBlanks rest with
  | [] => return value
  | _ => throw .trailing

mutual
/-- **A value without repeated keys**: of each key the first place and the last value. -/
def settled : Json → Json
  | .array items => .array (settledItems items)
  | .object entries => .object (Record.ofList (settledEntries entries))
  | v => v
/-- Values without repeated keys. -/
def settledItems : List Json → List Json
  | [] => []
  | x :: xs => settled x :: settledItems xs
/-- Entries whose values have no repeated keys. -/
def settledEntries : List (String × Json) → List (String × Json)
  | [] => []
  | (k, x) :: xs => (k, settled x) :: settledEntries xs
end

/-- **The value that a whole text means.** -/
def read (cs : List Char) : Except ReadError Json := (readAsWritten cs).map settled

/-- The value that a string means, if it is one. -/
def read? (s : String) : Option Json := (read s.toList).toOption

end Pushdown.Json
