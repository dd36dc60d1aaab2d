import Pushdown.Sql.Token
import Pushdown.Text.Blank
import Pushdown.Text.Letter

/-!
# From characters to tokens

A token is read off the front of the text by its first character; the longest operator wins. Blanks
are the Unicode ones. Comments are `--` to the end of the line and nested `/* */`. Bare words may
use the letters of every script, and signs that other dialects give a meaning of their own (`#`,
`@`, `$`) are letters of a word here. Names are quoted by `"` or a backtick, and there are eight
ways to write a literal text.

Every step uses up at least one character, so an allowance of the text's length is enough.
-/

namespace Pushdown.Sql

open Text

/-! ### Failures -/

/-- **Why a text is not a statement.** -/
inductive SyntaxError where
  /-- A quoted text or a comment has no end. -/
  | unterminated (what : String)
  /-- Something else stands where `wanted` belongs; `found` is empty at the end of the text. -/
  | expected (wanted found : String)
  /-- Queries and expressions nest too deeply. -/
  | tooDeep
  deriving DecidableEq, Repr

/-- The wording of a failure. -/
def SyntaxError.message : SyntaxError → String
  | .unterminated what => "unterminated " ++ what
  | .expected wanted found =>
    "expected " ++ wanted ++ ", found " ++ (if found = "" then "the end of the text" else found)
  | .tooDeep => "recursion limit exceeded"

/-! ### Character classes -/

/-- A character that a bare word may start with. -/
def startsWord (c : Char) : Bool :=
  isAlphabetic c || c == '_' || c == '#' || c == '@'

/-- A character that a bare word may go on with. -/
def continuesWord (c : Char) : Bool :=
  startsWord c || c.isDigit || c == '$'

/-- The capitals of a letter, as far as they are ASCII letters. Outside ASCII that holds of two
letters that have a capital there and of the ligatures that are written as several capitals. Any
other letter stands for itself, because no keyword can contain it. -/
def capitals : Char → List Char
  | 'ı' => ['I']
  | 'ſ' => ['S']
  | 'ß' => ['S', 'S']
  | 'ﬀ' => ['F', 'F']
  | 'ﬁ' => ['F', 'I']
  | 'ﬂ' => ['F', 'L']
  | 'ﬃ' => ['F', 'F', 'I']
  | 'ﬄ' => ['F', 'F', 'L']
  | 'ﬅ' => ['S', 'T']
  | 'ﬆ' => ['S', 'T']
  | c => [c.toUpper]

/-- The upper-case form by which a bare word is compared with keywords. -/
def upperWord (s : String) : String := String.ofList (s.toList.flatMap capitals)

/-- The token of a bare word. -/
def bareWord (cs : List Char) : Token :=
  let s := String.ofList cs
  .word (.bare s) (upperWord s)

/-! ### Quoted texts -/

/-- **The text up to a closing quote.** A doubled quote is one character of the text. With
`backslash`, a backslash escapes the character behind it. -/
def quotedUpTo (quote : Char) (backslash : Bool) (reversed : List Char) :
    List Char → Except SyntaxError (String × List Char)
  | [] => .error (.unterminated "string literal")
  | c :: cs =>
    if c = quote then
      match cs with
      | [] => .ok (String.ofList reversed.reverse, [])
      | d :: ds =>
        if d = quote then quotedUpTo quote backslash (quote :: reversed) ds
        else .ok (String.ofList reversed.reverse, d :: ds)
    else if backslash ∧ c = '\\' then
      match cs with
      | [] => .error (.unterminated "string literal")
      | d :: ds =>
        let e := match d with
          | '0' => '\x00'
          | 'a' => '\x07'
          | 'b' => '\x08'
          | 'f' => '\x0c'
          | 'n' => '\n'
          | 'r' => '\r'
          | 't' => '\t'
          | 'Z' => '\x1a'
          | d => d
        quotedUpTo quote backslash (e :: reversed) ds
    else quotedUpTo quote backslash (c :: reversed) cs

/-- The text up to three closing quotes in a row. -/
def tripleQuotedUpTo (quote : Char) (reversed : List Char) :
    List Char → Except SyntaxError (String × List Char)
  | [] => .error (.unterminated "string literal")
  | c :: cs =>
    match reversed with
    | b :: a :: before =>
      if c = quote ∧ b = quote ∧ a = quote then .ok (String.ofList before.reverse, cs)
      else tripleQuotedUpTo quote (c :: reversed) cs
    | _ => tripleQuotedUpTo quote (c :: reversed) cs

/-- A raw text between one or three quotes, its opening quotes still ahead. Two quotes and no third
are an empty text. -/
def rawLiteral (quote : Char) (cs : List Char) : Except SyntaxError (Token × List Char) :=
  match dropLeading [quote, quote, quote] cs with
  | some rest => (tripleQuotedUpTo quote [] rest).map fun (s, rest) =>
      (.literal (.raw quote true) s, rest)
  | none =>
    match dropLeading [quote, quote] cs with
    | some rest => .ok (.literal (.raw quote false) "", rest)
    | none => (quotedUpTo quote false [] (cs.drop 1)).map fun (s, rest) =>
        (.literal (.raw quote false) s, rest)

/-- The value of a digit of a base up to sixteen. -/
def digitBelow? (base : Nat) (c : Char) : Option Nat :=
  let value? :=
    if '0' ≤ c ∧ c ≤ '9' then some (c.toNat - '0'.toNat)
    else if 'a' ≤ c ∧ c ≤ 'f' then some (c.toNat - 'a'.toNat + 10)
    else if 'A' ≤ c ∧ c ≤ 'F' then some (c.toNat - 'A'.toNat + 10)
    else none
  value?.filter (· < base)

/-- The number that digits of a base write. -/
def ofDigitsBelow (base : Nat) (cs : List Char) : Option Nat :=
  cs.foldl (fun n? c => do return (← n?) * base + (← digitBelow? base c)) (some 0)

/-- The character with a code point, if there is one. -/
def charOf? (n : Nat) : Option Char :=
  if h : n.isValidChar then some (Char.ofNatAux n h) else none

/-- The character that a fixed number of hexadecimal digits writes. -/
def hexChar? (width : Nat) (cs : List Char) : Option Char :=
  if cs.length < width then none
  else (ofDigitsBelow 16 (cs.take width)).bind charOf?

/-- The character that a fixed number of characters writes in hexadecimal, the first of which may be
a plus sign. -/
def signedHexChar? (width : Nat) (cs : List Char) : Option Char :=
  match width, cs with
  | width + 1, '+' :: rest => hexChar? width rest
  | width, cs => hexChar? width cs

/-- The ASCII character that leading digits of a base write as one byte, at most `width` of them,
and how many there are. Without digits it is the default. -/
def byteChar? (base width : Nat) (default : Char) (cs : List Char) : Option (Char × Nat) := do
  let digits := (cs.take width).takeWhile fun c => (digitBelow? base c).isSome
  let n ← ofDigitsBelow base digits
  if digits = [] then return (default, 0)
  else if n % 256 < 0x80 then return (Char.ofNat (n % 256), digits.length)
  else none

/-- The text of a literal with backslash escapes, up to its closing quote. -/
def escapedUpTo : (allowance : Nat) → (reversed : List Char) → List Char →
    Except SyntaxError (String × List Char)
  | allowance + 1, reversed, '\'' :: '\'' :: cs => escapedUpTo allowance ('\'' :: reversed) cs
  | _ + 1, reversed, '\'' :: cs => .ok (String.ofList reversed.reverse, cs)
  | allowance + 1, reversed, '\\' :: c :: cs =>
    let go (found? : Option (Char × Nat)) : Except SyntaxError (String × List Char) :=
      match found? with
      | some (d, used) =>
        -- no text holds the null character
        if d = '\x00' then .error (.unterminated "encoded string literal")
        else escapedUpTo allowance (d :: reversed) (cs.drop used)
      | none => .error (.unterminated "encoded string literal")
    match c with
    | 'b' => go (some ('\x08', 0))
    | 'f' => go (some ('\x0c', 0))
    | 'n' => go (some ('\n', 0))
    | 'r' => go (some ('\r', 0))
    | 't' => go (some ('\t', 0))
    | 'u' => go ((signedHexChar? 4 cs).map (·, 4))
    | 'U' => go ((signedHexChar? 8 cs).map (·, 8))
    | 'x' => go (byteChar? 16 2 'x' cs)
    | c =>
      if '0' ≤ c ∧ c ≤ '7' then go ((byteChar? 8 3 c (c :: cs)).map fun (d, used) => (d, used - 1))
      else go (some (c, 0))
  | allowance + 1, reversed, c :: cs =>
    if c = '\\' then .error (.unterminated "encoded string literal")
    else escapedUpTo allowance (c :: reversed) cs
  | _, _, _ => .error (.unterminated "encoded string literal")

/-- The text of a literal with Unicode escapes, up to its closing quote. -/
def unicodeUpTo : (allowance : Nat) → (reversed : List Char) → List Char →
    Except SyntaxError (String × List Char)
  | allowance + 1, reversed, '\'' :: '\'' :: cs => unicodeUpTo allowance ('\'' :: reversed) cs
  | _ + 1, reversed, '\'' :: cs => .ok (String.ofList reversed.reverse, cs)
  | allowance + 1, reversed, '\\' :: '\\' :: cs => unicodeUpTo allowance ('\\' :: reversed) cs
  | allowance + 1, reversed, '\\' :: '+' :: cs =>
    match hexChar? 6 cs with
    | some c => unicodeUpTo allowance (c :: reversed) (cs.drop 6)
    | none => .error (.unterminated "unicode encoded string literal")
  | allowance + 1, reversed, '\\' :: cs =>
    match hexChar? 4 cs with
    | some c => unicodeUpTo allowance (c :: reversed) (cs.drop 4)
    | none => .error (.unterminated "unicode encoded string literal")
  | allowance + 1, reversed, c :: cs => unicodeUpTo allowance (c :: reversed) cs
  | _, _, _ => .error (.unterminated "unicode encoded string literal")

/-- A text up to two dollar signs in a row, which belong to neither part. -/
def upToDollars (reversed : List Char) : List Char → Option (String × List Char)
  | [] => none
  | '$' :: '$' :: cs => some (String.ofList reversed.reverse, cs)
  | c :: cs => upToDollars (c :: reversed) cs

/-- **A text up to its closing tag.** Each dollar sign outside an attempt opens one: the characters
behind it are held against the tag, and one that differs belongs to the text and ends the attempt,
even if it is itself a dollar sign. `wanted?` is what an attempt still has to find. Behind the whole
tag a dollar sign closes the text; anything else there is looked at afresh. -/
def upToTag (tag : List Char) (reversed : List Char) (wanted? : Option (List Char)) :
    List Char → Option (String × List Char)
  | [] => none
  | c :: cs =>
    match wanted? with
    | some [] =>
      if c = '$' then some (String.ofList (reversed.drop (tag.length + 1)).reverse, cs)
      else upToTag tag (c :: reversed) none cs
    | some (t :: ts) => upToTag tag (c :: reversed) (if c = t then some ts else none) cs
    | none => upToTag tag (c :: reversed) (if c = '$' then some tag else none) cs

/-- What a dollar sign opens: a text between dollar signs, with or without a tag, or the name of a
parameter. -/
def dollarToken (cs : List Char) : Except SyntaxError (Token × List Char) :=
  let tag := cs.takeWhile fun c => isAlphanumeric c || c == '_'
  match cs.dropWhile fun c => isAlphanumeric c || c == '_' with
  | '$' :: rest =>
    match if tag = [] then upToDollars [] rest else upToTag tag [] none rest with
    | some (s, rest) => .ok (.literal (.dollar (String.ofList tag)) s, rest)
    | none => .error (.unterminated "dollar-quoted string")
  | rest => .ok (.placeholder (String.ofList ('$' :: tag)), rest)

/-! ### Comments, numbers and signs -/

/-- What follows a nested comment whose opening sign is read. `previous` is the last character. -/
def afterComment (depth : Nat) (previous : Char) : List Char → Option (List Char)
  | [] => none
  | c :: cs =>
    if previous = '/' ∧ c = '*' then afterComment (depth + 1) c cs
    else if previous = '*' ∧ c = '/' then
      match depth with
      | 0 => some cs
      | depth + 1 => afterComment depth c cs
    else afterComment depth c cs

/-- What follows a comment to the end of its line. -/
def afterLineComment (cs : List Char) : List Char :=
  (cs.dropWhile (· ≠ '\n')).drop 1

/-- An exponent with at least one digit. -/
def exponentOf (cs : List Char) : List Char × List Char :=
  let marked (signed : List Char) (rest : List Char) : List Char × List Char :=
    match rest.takeWhile Char.isDigit with
    | [] => ([], cs)
    | digits => (signed ++ digits, rest.dropWhile Char.isDigit)
  match cs with
  | c :: rest =>
    if c = 'e' ∨ c = 'E' then
      match rest with
      | s :: more => if s = '+' ∨ s = '-' then marked [c, s] more else marked [c] rest
      | [] => ([], cs)
    else ([], cs)
  | [] => ([], cs)

/-- A number, a hexadecimal literal or a lone point. -/
def numberToken (cs : List Char) : Token × List Char :=
  let whole := cs.takeWhile Char.isDigit
  let rest := cs.dropWhile Char.isDigit
  match whole, rest with
  | ['0'], 'x' :: rest =>
    -- `0x` alone is an empty hexadecimal literal
    let isHex c := (digitBelow? 16 c).isSome
    (.literal .hex (String.ofList (rest.takeWhile isHex)), rest.dropWhile isHex)
  | whole, rest =>
    let (digits, rest) := match rest with
      | '.' :: more =>
        (whole ++ '.' :: more.takeWhile Char.isDigit, more.dropWhile Char.isDigit)
      | more => (whole, more)
    if digits = ['.'] then (.symbol ".", rest)
    else
      let (exponent, rest) := exponentOf rest
      let text := String.ofList (digits ++ exponent)
      match rest with
      | 'L' :: rest => (.number text true, rest)
      | rest => (.number text false, rest)

/-- Operators of more than one character, the longer before the shorter. -/
def operators : List String :=
  ["!~~*", "->>", "||/", "<=>", "!~*", "!~~", "~~*", "#>>", "->", "|/", "||", "=>", "==", "!=",
   "!!", "!~", "<=", "<>", "<<", "<@", ">=", ">>", "::", ":=", "&&", "^@", "~*", "~~", "#-", "#>",
   "//", "@>", "@?"]

/-- The operator at the front of a text. -/
def operatorAt (cs : List Char) : Option (String × List Char) :=
  operators.findSome? fun op => (dropLeading op.toList cs).map (op, ·)

/-- A sign: an operator, or a single character. -/
def signToken (c : Char) (cs : List Char) : Token × List Char :=
  match operatorAt (c :: cs) with
  | some ("!=", rest) => (.symbol "<>", rest)
  | some (op, rest) => (.symbol op, rest)
  | none => (.symbol (String.ofList [c]), cs)

/-- A word whose first characters are given. -/
def wordFrom (first cs : List Char) : Token × List Char :=
  (bareWord (first ++ cs.takeWhile continuesWord), cs.dropWhile continuesWord)

/-! ### One token -/

/-- What a sign that is also a letter opens: an operator, the sign alone before a blank, or a word
that goes on with whatever stands next. -/
def signWord (c : Char) (cs : List Char) : Token × List Char :=
  match operatorAt (c :: cs), cs with
  | some (op, rest), _ => (.symbol op, rest)
  | none, [] => (.symbol (String.ofList [c]), [])
  | none, d :: rest =>
    if c = '@' ∧ d = '@' then
      match rest with
      | [] => (.symbol "@@", [])
      | e :: more => if e = ' ' then (.symbol "@@", rest) else wordFrom [c, d, e] more
    else if d = ' ' then (.symbol (String.ofList [c]), cs)
    else wordFrom [c, d] rest

/-- **The literal or word that a letter opens.** Some letters introduce a literal when a quote
follows at once. -/
def letterToken (c : Char) (cs : List Char) : Except SyntaxError (Token × List Char) :=
  let word := wordFrom [c] cs
  match c.toUpper, cs with
  | 'B', '\'' :: rest =>
    (quotedUpTo '\'' false [] rest).map fun (s, rest) => (.literal (.bytes '\'') s, rest)
  | 'B', '"' :: rest =>
    (quotedUpTo '"' false [] rest).map fun (s, rest) => (.literal (.bytes '"') s, rest)
  | 'R', '\'' :: _ => rawLiteral '\'' cs
  | 'R', '"' :: _ => rawLiteral '"' cs
  | 'N', '\'' :: rest =>
    (quotedUpTo '\'' true [] rest).map fun (s, rest) => (.literal .national s, rest)
  | 'E', '\'' :: rest =>
    (escapedUpTo (rest.length + 1) [] rest).map fun (s, rest) => (.literal .escaped s, rest)
  | 'X', '\'' :: rest =>
    (quotedUpTo '\'' true [] rest).map fun (s, rest) => (.literal .hex s, rest)
  | 'U', '&' :: '\'' :: rest =>
    (unicodeUpTo (rest.length + 1) [] rest).map fun (s, rest) => (.literal .unicode s, rest)
  | _, _ => .ok word

/-- **The first token of a text**, nothing if the text starts with a blank or a comment, and what
follows. -/
def nextToken (c : Char) (cs : List Char) : Except SyntaxError (Option Token × List Char) :=
  let found := fun (r : Token × List Char) => (some r.1, r.2)
  if isBlank c then .ok (none, cs)
  else if c = '\'' then
    (quotedUpTo '\'' false [] cs).map fun (s, rest) => (some (.quoted s), rest)
  else if c = '"' ∨ c = '\x60' then
    match quotedUpTo c false [] cs with
    | .ok (s, rest) => .ok (some (.word ⟨s, some c⟩ ""), rest)
    | .error _ => .error (.unterminated "quoted name")
  else if c.isDigit ∨ c = '.' then .ok (found (numberToken (c :: cs)))
  else if c = '-' ∧ cs.head? = some '-' then .ok (none, afterLineComment cs)
  else if c = '/' ∧ cs.head? = some '*' then
    match afterComment 0 ' ' (cs.drop 1) with
    | some rest => .ok (none, rest)
    | none => .error (.unterminated "comment")
  else if c = '?' then
    .ok (some (.placeholder (String.ofList ('?' :: cs.takeWhile isNumeric))),
      cs.dropWhile isNumeric)
  else if c = '$' then (dollarToken cs).map found
  else if c = '#' ∨ c = '@' then .ok (found (signWord c cs))
  else if startsWord c then (letterToken c cs).map found
  else .ok (found (signToken c cs))

/-- The tokens of a text, as far as the allowance goes. -/
def tokensWithin : (allowance : Nat) → List Char → Except SyntaxError (List Token)
  | _, [] => .ok []
  | 0, _ :: _ => .error .tooDeep
  | allowance + 1, c :: cs => do
    let (token?, rest) ← nextToken c cs
    let tokens ← tokensWithin allowance rest
    return token?.toList ++ tokens

/-- **The tokens of a text.** -/
def tokens (cs : List Char) : Except SyntaxError (List Token) :=
  tokensWithin cs.length cs

end Pushdown.Sql
