import Pushdown.Sql.Column

/-!
# Data types

A type is read for one reason: casts and typed literals are repeated in error messages with the
type spelled canonically. So the result is that spelling. Two more things are kept. Whether the
type is a known one, an interval or a name of the user's own, because only a known type turns the
text behind it into a literal; and whether its last sign was `>>`, which closes two angle brackets
at once. Types within a type are read through the grammar.
-/

namespace Pushdown.Sql

open Parse

namespace DataType

/-- A known type. -/
def known (text : String) : Option DataType := some ⟨text, .known, false⟩

/-! ### Tables -/

/-- Known types without arguments, by keyword. -/
def plainTypes : List (String × String) :=
  [("BOOLEAN", "BOOLEAN"), ("BOOL", "BOOL"), ("REAL", "REAL"), ("FLOAT4", "FLOAT4"),
   ("FLOAT32", "Float32"), ("FLOAT64", "FLOAT64"), ("FLOAT8", "FLOAT8"), ("INT16", "Int16"),
   ("INT32", "Int32"), ("INT64", "INT64"), ("INT128", "Int128"), ("INT256", "Int256"),
   ("UINT8", "UInt8"), ("UINT16", "UInt16"), ("UINT32", "UInt32"), ("UINT64", "UInt64"),
   ("UINT128", "UInt128"), ("UINT256", "UInt256"), ("UUID", "UUID"), ("DATE", "DATE"),
   ("DATE32", "Date32"), ("JSON", "JSON"), ("JSONB", "JSONB"), ("REGCLASS", "REGCLASS"),
   ("TEXT", "TEXT"), ("BYTEA", "BYTEA"), ("TRIGGER", "TRIGGER")]

/-- Known types with an optional length. -/
def sizedTypes : List String :=
  ["FLOAT", "DATETIME", "CLOB", "BINARY", "VARBINARY", "BLOB", "BYTES", "STRING"]

/-- Integer types, with an optional width and an optional `UNSIGNED`. -/
def integerTypes : List String :=
  ["TINYINT", "INT2", "SMALLINT", "MEDIUMINT", "INT", "INT4", "INT8", "INTEGER", "BIGINT"]

/-- Types of exact numbers, with optional digits and places. -/
def exactTypes : List String := ["NUMERIC", "DECIMAL", "DEC", "BIGNUMERIC", "BIGDECIMAL"]

/-! ### Arguments -/

/-- An optional length in parentheses. -/
def size : Parse String := do
  if ← symbol "(" then
    let n ← natural
    expectSymbol ")"
    return "(" ++ Number.intText n ++ ")"
  else return ""

/-- An optional count of characters in parentheses. -/
def characterSize : Parse String := do
  if ← symbol "(" then
    let inner ← do
      if ← keyword "MAX" then pure "MAX"
      else
        let n ← natural
        pure (Number.intText n ++ spaced (← keywordOf ["CHARACTERS", "OCTETS"]))
    expectSymbol ")"
    return "(" ++ inner ++ ")"
  else return ""

/-- Optional digits and places in parentheses. -/
def exactSize : Parse String := do
  if ← symbol "(" then
    let digits ← natural
    let places ← do
      if ← symbol "," then pure ("," ++ Number.intText (← natural)) else pure ""
    expectSymbol ")"
    return "(" ++ Number.intText digits ++ places ++ ")"
  else return ""

/-- The texts of an enumeration, in parentheses. -/
def labels : Parse String := do
  let items ← parenthesized (commaSeparated do
    match ← next "a string" with
    | .quoted s => return quotedText s
    | _ => fail "a string")
  return "(" ++ commaText items ++ ")"

/-- The time zone behind a time. -/
def timeZone : Parse String := do
  match ← keywordOf ["WITH", "WITHOUT"] with
  | none => return ""
  | some k => do
    expectKeywords ["TIME", "ZONE"]
    return " " ++ k ++ " TIME ZONE"

/-- Modifiers of a type of the user's own, up to the closing parenthesis. -/
def modifiers : (allowance : Nat) → Parse (List String)
  | 0 => fail "type modifiers"
  | allowance + 1 => do
    let t ← next "type modifiers"
    match t with
    | .word .. => return t.plainText :: (← modifiers allowance)
    | .number digits _ => return digits :: (← modifiers allowance)
    | .quoted s => return s :: (← modifiers allowance)
    | .symbol "," => modifiers allowance
    | .symbol ")" => return []
    | _ => fail "type modifiers"

/-- The end of a type in angle brackets: `>`, or the second half of an inner `>>`, or `>>` for this
type and the one around it. The result says whether the latter happened. -/
def closeAngle (closed : Bool) : Parse Bool := do
  if closed then return false
  else if ← symbol ">" then return false
  else if ← symbol ">>" then return true
  else fail ">"

/-- Square brackets behind a type, each making an array of it. -/
def brackets : Parse (List String) :=
  repeated do
    if ← symbol "[" then
      let n? ← attempt natural
      expectSymbol "]"
      return some ("[" ++ (n?.map fun n => Number.intText (n : Int)).getD "" ++ "]")
    else return none

/-! ### Types -/

variable (g : Grammar)

/-- A field of a structure: a type with an optional name before it. The result says whether the type
closes the structure too. -/
def field : Parse (String × Bool) := do
  let named ← match ← ahead with
    | .word n _ :: .word _ _ :: _ => do
      let _ ← next "a field name"
      pure (n.text ++ " ")
    | _ => pure ""
  let t ← g.innerType
  return (named ++ t.text, t.closesOuter)

/-- The fields of a structure, and whether the last one closes it. No field may follow one that
does. -/
def structFields : (allowance : Nat) → Parse (List String × Bool)
  | 0 => fail "a field"
  | allowance + 1 => do
    let (text, closed) ← field g
    if ← symbol "," then
      if closed then fail "the end of the structure"
      else
        let (more, closed) ← structFields allowance
        return (text :: more, closed)
    else return ([text], closed)

/-- The fields of a structure in angle brackets, behind the opening one, and whether `>>` closed
the type around it too. -/
def angleFields : Parse (List String × Bool) := do
  let (fields, closed) ← structFields g ((← ahead).length + 1)
  return (fields, ← closeAngle closed)

/-- One type in parentheses. -/
def wrapped : Parse String := do
  return "(" ++ (← parenthesized g.dataType).text ++ ")"

/-- A type whose keyword has been taken, if a keyword is what it begins with. -/
def ofKeyword (k : String) : Parse (Option DataType) := do
  match plainTypes.lookup k with
  | some text => return known text
  | none =>
    if k ∈ sizedTypes then return known (k ++ (← size))
    else if k ∈ integerTypes then
      let n ← size
      return known (k ++ n ++ spaced (← keywordOf ["UNSIGNED"]))
    else if k ∈ exactTypes then return known (k ++ (← exactSize))
    else if k = "DOUBLE" then return known ("DOUBLE" ++ spaced (← keywordOf ["PRECISION"]))
    else if k = "VARCHAR" ∨ k = "NVARCHAR" then return known (k ++ (← characterSize))
    else if k = "CHAR" ∨ k = "CHARACTER" then
      if ← keyword "VARYING" then return known (k ++ " VARYING" ++ (← characterSize))
      else if ← keywords ["LARGE", "OBJECT"] then
        return known (k ++ " LARGE OBJECT" ++ (← size))
      else return known (k ++ (← characterSize))
    else if k = "TIMESTAMP" ∨ k = "TIME" then
      let n ← size
      return known (k ++ n ++ (← timeZone))
    else if k = "TIMESTAMPTZ" ∨ k = "TIMETZ" then return known (k ++ (← size))
    else if k = "INTERVAL" then return some ⟨"INTERVAL", .interval, false⟩
    else if k = "ENUM" ∨ k = "SET" then return known (k ++ (← labels))
    else if k = "FIXEDSTRING" then
      return known ("FixedString(" ++ Number.intText (← parenthesized natural) ++ ")")
    else if k = "DATETIME64" then
      let inner ← parenthesized do
        let n ← natural
        if ← symbol "," then return Number.intText n ++ ", '" ++ (← textLiteral) ++ "'"
        else return Number.intText n
      return known ("DateTime64(" ++ inner ++ ")")
    else if k = "ARRAY" then
      expectSymbol "<"
      let inner ← g.innerType
      return some ⟨"ARRAY<" ++ inner.text ++ ">", .known, ← closeAngle inner.closesOuter⟩
    else if k = "STRUCT" then
      if ← symbol "<" then
        let (fields, closed) ← angleFields g
        return some ⟨"STRUCT<" ++ commaText fields ++ ">", .known, closed⟩
      else return known "STRUCT"
    else if k = "NULLABLE" then return known ("Nullable" ++ (← wrapped g))
    else if k = "LOWCARDINALITY" then return known ("LowCardinality" ++ (← wrapped g))
    else if k = "MAP" then
      let inner ← parenthesized do
        let key ← g.dataType
        expectSymbol ","
        return key.text ++ ", " ++ (← g.dataType).text
      return known ("Map(" ++ inner ++ ")")
    else if k = "TUPLE" then
      let fields ← parenthesized (commaSeparated (field g))
      return known ("Tuple(" ++ commaText (fields.map Prod.fst) ++ ")")
    else if k = "UNION" then
      let fields ← parenthesized do
        commaSeparated do
          let n ← name
          return n.text ++ " " ++ (← g.dataType).text
      return known ("UNION(" ++ commaText fields ++ ")")
    else if k = "NESTED" then
      let fields ← parenthesized (commaSeparated (columnDefinition g))
      return known ("Nested(" ++ commaText fields ++ ")")
    else return none

/-- A name of the user's own, with modifiers behind it. -/
def custom : Parse DataType := do
  let parts ← path
  let modifiers ← do
    if ← symbol "(" then modifiers ((← ahead).length + 1) else pure []
  let more := if modifiers.isEmpty then "" else "(" ++ commaText modifiers ++ ")"
  return ⟨pathText parts ++ more, .custom, false⟩

/-- **A data type**, with the square brackets behind it. -/
def read : Parse DataType := do
  let start ← ahead
  match start with
  | .word _ k :: rest => do
    set rest
    let t ← match ← ofKeyword g k with
      | some t => pure t
      | none => do
        set start
        custom
    match ← brackets with
    | [] => return t
    | bs => return { t with text := t.text ++ String.join bs, kind := .known }
  | _ => fail "a data type name"

end DataType

end Pushdown.Sql
