import Pushdown.Json.Value
import Pushdown.Number.Decimal

/-!
# JSON text of a value

A value has one text: no blanks, entries in their order, integers in full, numbers with a fraction
by their shortest digits. The same text serves every place where a value turns into characters: a
cell of a table, an operand of a filter expression, the description of a literal.

The writer puts a value's text in front of a given rest, so that the text of a sequence is a fold
and no intermediate text is copied. `Json.text` is that with nothing behind it.
-/

namespace Pushdown

open Number

/-! ### Texts -/

/-- **How a character stands inside quotes.** A quote and a backslash are escaped, five control
characters have a short escape, and the other control characters are written by their number. -/
def escapedChar (c : Char) : List Char :=
  match c with
  | '"' => ['\\', '"']
  | '\\' => ['\\', '\\']
  | '\n' => ['\\', 'n']
  | '\r' => ['\\', 'r']
  | '\t' => ['\\', 't']
  | '\x08' => ['\\', 'b']
  | '\x0c' => ['\\', 'f']
  | c =>
    if c.toNat < 0x20 then
      ['\\', 'u', '0', '0', Number.hexDigit (c.toNat / 16), Number.hexDigit (c.toNat % 16)]
    else [c]

/-- A text between quotes, in front of a rest. -/
def quotedBefore (s : String) (rest : List Char) : List Char :=
  '"' :: s.toList.flatMap escapedChar ++ '"' :: rest

/-! ### Values -/

/-- The text of a number. What no JSON number can be is written as null. -/
def JsonNumber.text : JsonNumber → String
  | .int i => intText i
  | .float x => if x.isFinite then x.text else "null"

namespace Json

mutual
/-- **The text of a value**, in front of a rest. -/
def before : Json → List Char → List Char
  | .null, rest => "null".toList ++ rest
  | .bool true, rest => "true".toList ++ rest
  | .bool false, rest => "false".toList ++ rest
  | .number n, rest => n.text.toList ++ rest
  | .string s, rest => quotedBefore s rest
  | .array [], rest => '[' :: ']' :: rest
  | .array (x :: xs), rest => '[' :: before x (itemsBefore xs (']' :: rest))
  | .object [], rest => '{' :: '}' :: rest
  | .object ((k, x) :: es), rest =>
    '{' :: quotedBefore k (':' :: before x (entriesBefore es ('}' :: rest)))
/-- The items of an array after its first, each behind its comma. -/
def itemsBefore : List Json → List Char → List Char
  | [], rest => rest
  | x :: xs, rest => ',' :: before x (itemsBefore xs rest)
/-- The entries of an object after its first, each behind its comma. -/
def entriesBefore : List (String × Json) → List Char → List Char
  | [], rest => rest
  | (k, x) :: es, rest => ',' :: quotedBefore k (':' :: before x (entriesBefore es rest))
end

/-- **The text of a value.** -/
def text (v : Json) : String := String.ofList (v.before [])

/-- A text as it is, and any other value by its JSON text. -/
def bareText : Json → String
  | .string s => s
  | v => v.text

/-- **A text stands for a value**: it is the value, or the JSON text of a value that is no text. -/
inductive HasText : Json → String → Prop where
  /-- A text stands for itself. -/
  | itself (s : String) : HasText (.string s) s
  /-- Any other value has its JSON text. -/
  | json {v : Json} (h : ∀ s, v ≠ .string s) : HasText v v.text

theorem hasText_iff {v : Json} {text : String} : v.HasText text ↔ text = v.bareText := by
  constructor
  · intro h
    cases h with
    | itself => rfl
    | json h =>
      cases v with
      | string s => exact absurd rfl (h s)
      | null | bool | number | array | object => rfl
  · rintro rfl
    cases v with
    | string s => exact .itself s
    | null | bool | number | array | object => exact .json nofun

end Json

end Pushdown
