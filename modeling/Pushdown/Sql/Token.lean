import Pushdown.Sql.Keyword

/-!
# Words and signs of a statement

A statement is read as a list of tokens, from which blanks and comments are gone. A token knows
enough to be written again in one canonical way, because an expression that the engine cannot
interpret is reported by its canonical text: `Token.text` and the functions for names and literals
fix that spelling. Quotes inside a quoted text are doubled, unless a backslash stands before them.
-/

namespace Pushdown.Sql

/-- **A name of a statement**, with the quote it was written in, if any. -/
structure Name where
  /-- The name without quotes. -/
  value : String
  /-- The opening quote. -/
  quote : Option Char
  deriving DecidableEq, Repr

/-- The ways to write a literal text besides plain quotes. -/
inductive LiteralStyle where
  /-- A text of the national character set. -/
  | national
  /-- Hexadecimal digits. -/
  | hex
  /-- A text with backslash escapes. -/
  | escaped
  /-- A text with Unicode escapes. -/
  | unicode
  /-- Bytes between quotes of the given kind. -/
  | bytes (quote : Char)
  /-- A raw text between one or three quotes of the given kind. -/
  | raw (quote : Char) (triple : Bool)
  /-- A text between dollar signs, with the tag that stands inside them. -/
  | dollar (tag : String)
  deriving DecidableEq, Repr

/-- **A token.** -/
inductive Token where
  /-- A word, with its upper-case form if it is bare. -/
  | word (name : Name) (keyword : String)
  /-- Digits of a number, and whether a long marker follows them. -/
  | number (digits : String) (long : Bool)
  /-- A text between single quotes. -/
  | quoted (value : String)
  /-- A text written in another style. -/
  | literal (style : LiteralStyle) (value : String)
  /-- A place left open for a parameter. -/
  | placeholder (text : String)
  /-- Punctuation, an operator or a stray character. -/
  | symbol (text : String)
  deriving DecidableEq, Repr

/-! ### Canonical spelling -/

/-- A text with its quotes doubled. A quote behind a backslash stands alone, and two quotes in a row
count as one that is doubled already. -/
def doubledQuotes (quote : Char) (previous : Char) : List Char → List Char
  | [] => []
  | c :: cs =>
    if c = quote then
      if previous = '\\' then c :: doubledQuotes quote previous cs
      else
        match cs with
        | [] => [c, c]
        | d :: ds =>
          if d = quote then c :: c :: doubledQuotes quote c ds
          else c :: c :: doubledQuotes quote c (d :: ds)
    else c :: doubledQuotes quote c cs

/-- A text between quotes. -/
def inQuotes (quote : Char) (s : String) : String :=
  String.ofList (quote :: doubledQuotes quote '\x00' s.toList ++ [quote])

/-- A text between single quotes. -/
def quotedText (s : String) : String := inQuotes '\'' s

namespace Name

/-- A name without quotes. -/
def bare (value : String) : Name := ⟨value, none⟩

/-- The canonical text of a name: in its quotes, if it has any. -/
def text (n : Name) : String :=
  match n.quote with
  | none => n.value
  | some q => inQuotes q n.value

end Name

/-- The canonical text of a name of several parts. -/
def pathText (parts : List Name) : String :=
  String.intercalate "." (parts.map Name.text)

/-- The text of an item list. -/
def commaText (items : List String) : String :=
  String.intercalate ", " items

/-- How a character stands in a text with backslash escapes. -/
def escapedStyleChar (c : Char) : List Char :=
  match c with
  | '\'' => ['\\', '\'']
  | '\\' => ['\\', '\\']
  | '\n' => ['\\', 'n']
  | '\t' => ['\\', 't']
  | '\r' => ['\\', 'r']
  | c => [c]

/-- The hexadecimal digits of a number in upper case, padded with zeros. -/
def paddedHex (width n : Nat) : List Char :=
  let digits := (Nat.toDigits 16 n).map Char.toUpper
  List.replicate (width - digits.length) '0' ++ digits

/-- How a character stands in a text with Unicode escapes. -/
def unicodeStyleChar (c : Char) : List Char :=
  match c with
  | '\'' => ['\'', '\'']
  | '\\' => ['\\', '\\']
  | c =>
    if c.toNat < 0x80 then [c]
    else if c.toNat < 0x10000 then '\\' :: paddedHex 4 c.toNat
    else '\\' :: '+' :: paddedHex 6 c.toNat

/-- The canonical text of a literal in one of the other styles. -/
def LiteralStyle.text (style : LiteralStyle) (value : String) : String :=
  match style with
  | .national => "N'" ++ value ++ "'"
  | .hex => "X'" ++ value ++ "'"
  | .escaped => "E'" ++ String.ofList (value.toList.flatMap escapedStyleChar) ++ "'"
  | .unicode => "U&'" ++ String.ofList (value.toList.flatMap unicodeStyleChar) ++ "'"
  | .bytes q => String.ofList ('B' :: q :: value.toList ++ [q])
  | .raw q false => String.ofList ('R' :: q :: value.toList ++ [q])
  | .raw q true => String.ofList ('R' :: q :: q :: q :: value.toList ++ [q, q, q])
  | .dollar tag => "$" ++ tag ++ "$" ++ value ++ "$" ++ tag ++ "$"

namespace Token

/-- **The canonical text of a token.** -/
def text : Token → String
  | .word n _ => n.text
  | .number digits long => if long then digits ++ "L" else digits
  | .quoted s => quotedText s
  | .literal style s => style.text s
  | .placeholder s => s
  | .symbol s => s

/-- The text of a token whose characters are left as they are: quotes inside it are not doubled and
nothing is escaped. -/
def plainText : Token → String
  | .word ⟨value, some q⟩ _ => String.ofList (q :: value.toList ++ [q])
  | .quoted s => "'" ++ s ++ "'"
  | .literal .escaped s => "E'" ++ s ++ "'"
  | .literal .unicode s => "U&'" ++ s ++ "'"
  | t => t.text

/-- The keyword of a bare word, the empty text for everything else. -/
def keyword : Token → String
  | .word _ k => k
  | _ => ""

/-- A bare or quoted word that is not among the known ones. -/
def plainWord? : Token → Option Name
  | .word n k => if k ∈ keywordTable then none else some n
  | _ => none

end Token

end Pushdown.Sql
