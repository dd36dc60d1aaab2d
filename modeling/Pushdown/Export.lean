import Pushdown.Json.Writer
import Pushdown.Rows.Completion

/-!
# Writing answers

An answer is written either as comma-separated values, the column names first, or as JSON with one
object per line. In the first form a null is an empty field, a text stands as it is, and any other
cell by its JSON text; a field is quoted if it holds a comma, a quote or a line break, and a record
that would be nothing at all is written as one quoted empty field.
-/

namespace Pushdown

/-! ### Comma-separated values -/

/-- The text of a cell. -/
def cellText : Json → String
  | .null => ""
  | v => v.bareText

/-- A character that a field can only hold in quotes. -/
def needsQuotes (c : Char) : Bool := c == ',' || c == '"' || c == '\n' || c == '\r'

/-- Characters with every quote doubled. -/
def doubled : List Char → List Char
  | [] => []
  | '"' :: cs => '"' :: '"' :: doubled cs
  | c :: cs => c :: doubled cs

/-- A field in quotes. -/
def quotedField (cs : List Char) : List Char := '"' :: doubled cs ++ ['"']

/-- A field, in quotes if it needs them. -/
def fieldText (cs : List Char) : List Char := if cs.any needsQuotes then quotedField cs else cs

/-- Fields between commas. -/
def joinFields : List (List Char) → List Char
  | [] => []
  | [f] => f
  | f :: fs => f ++ ',' :: joinFields fs

/-- **A record**: its fields between commas, and a line end. -/
def recordLine (fields : List String) : List Char :=
  let line := joinFields (fields.map fun f => fieldText f.toList)
  (if line.isEmpty then quotedField [] else line) ++ ['\n']

/-- The fields of a row. -/
def rowFields (columns : List String) (row : Record) : List String :=
  columns.map fun c => cellText ((Record.get? row c).getD .null)

/-- **An answer as comma-separated values.** -/
def RowSet.csv (t : RowSet) : String :=
  String.ofList (recordLine t.columns ++
    t.rows.flatMap fun row => recordLine (rowFields t.columns row))

/-! ### JSON lines -/

/-- **An answer as one JSON object per line.** -/
def RowSet.jsonLines (t : RowSet) : String :=
  String.ofList (t.rows.flatMap fun row => (Json.object row).before ['\n'])

end Pushdown
