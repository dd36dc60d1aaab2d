import Pushdown.Export
import Pushdown.Proofs.Json.RoundTrip
import Pushdown.Tables.Dataset

/-!
# Answers as datasets

An answer that was written as JSON lines is a dataset, and its records are the rows of the answer.

Whoever reads a dataset guesses at its form: by the first character whether it is one array, by the
line feeds where a record ends, and by the characters of a line whether there is a record in it at
all. No cell can mislead that. The text of a row holds no control character, whatever the cells are,
so its line ends where it was ended (`lines_append`); and it begins with a brace, which is neither
blank nor the bracket of an array. What is left is that every line by itself is read as its row,
which is the statement for values, `Json.read_before`.
-/

namespace Pushdown.Dataset

/-! ### Lines -/

/-- **A line without control characters ends at the line feed behind it.** -/
theorem lines_append {line : List Char} (h : ∀ c ∈ line, 0x20 ≤ c.toNat) (rest : List Char) :
    Text.lines (line ++ '\n' :: rest) = line :: Text.lines rest := by
  induction line with
  | nil => rfl
  | cons c line ih =>
    obtain ⟨hc, hline⟩ := List.forall_mem_cons.1 h
    rw [List.cons_append, Text.lines, ih hline]
    · -- neither character of a line end is above the controls
      rintro more rfl
      exact absurd hc (by decide)
    · rintro rfl
      exact absurd hc (by decide)

/-- A row begins with a brace. -/
theorem exists_object_before_eq (row : Record) (rest : List Char) :
    ∃ more, (Json.object row).before rest = '{' :: more := by
  cases row with
  | nil => exact ⟨_, rfl⟩
  | cons e row => exact ⟨_, rfl⟩

variable {rows : List Record}

/-- **The lines of an answer are the texts of its rows.** -/
theorem lines_jsonLines (rows : List Record) :
    Text.lines (rows.flatMap fun row => (Json.object row).before ['\n']) =
      rows.map fun row => (Json.object row).before [] := by
  induction rows with
  | nil => rfl
  | cons row rows ih =>
    -- a row's text has no control character, so no line ends inside it
    obtain ⟨text, hchars, htext⟩ := Json.puts_before (.object row)
    have hline : (Json.object row).before [] = text := (htext []).trans (List.append_nil text)
    rw [List.flatMap_cons, List.map_cons, ← ih, hline, htext, List.append_assoc]
    exact lines_append hchars _

/-- An answer's lines do not look like an array, and nothing is trimmed off them. -/
theorem trimStart_jsonLines (rows : List Record) :
    Text.trimStart (rows.flatMap fun row => (Json.object row).before ['\n']) =
        rows.flatMap (fun row => (Json.object row).before ['\n']) ∧
      ∀ rest, rows.flatMap (fun row => (Json.object row).before ['\n']) ≠ '[' :: rest := by
  cases rows with
  | nil => exact ⟨rfl, nofun⟩
  | cons row rows =>
    obtain ⟨more, hmore⟩ := exists_object_before_eq row ['\n']
    rw [List.flatMap_cons, hmore, List.cons_append]
    -- the bracket of an array is no brace
    refine ⟨rfl, fun rest heq => ?_⟩
    exact absurd (List.cons.inj heq).1 (by decide)

/-! ### Records -/

/-- A row's line is read as the row, wherever it stands. -/
theorem readLine_object {row : Record} (h : (Json.object row).Recoverable Json.depthLimit)
    (position : Nat) :
    readLine (position, (Json.object row).before []) = .ok (.object row) := by
  rw [readLine, Json.read_before h]

theorem isBlankText_object (row : Record) :
    Text.isBlankText ((Json.object row).before []) = false := by
  obtain ⟨more, hmore⟩ := exists_object_before_eq row []
  rw [hmore, Text.isBlankText, List.all_cons]
  rfl

theorem readLines_object (h : ∀ row ∈ rows, (Json.object row).Recoverable Json.depthLimit)
    (start : Nat) :
    ((numberedFrom start (rows.map fun row => (Json.object row).before [])).filter fun line =>
      !Text.isBlankText line.2).mapM readLine = .ok (rows.map Json.object) := by
  -- from any number on, as a line that is read does not depend on its number
  induction rows generalizing start with
  | nil => rfl
  | cons row rows ih =>
    obtain ⟨hrow, hrows⟩ := List.forall_mem_cons.1 h
    -- a row has a brace, so its line is not blank and is read
    have hkept : (!Text.isBlankText ((Json.object row).before [])) = true := by
      rw [isBlankText_object]
      rfl
    rw [List.map_cons, numberedFrom, List.filter_cons, if_pos hkept,
      List.mapM_cons, readLine_object hrow, ih hrows (start + 1)]
    rfl

/-- **An answer that is written as JSON lines is read back as it was**: the rows, in their order,
with the same keys, in the same order, and the same values. This takes cells that their own text
recovers, as far below the reader's depth as a row is. -/
theorem read_jsonLines (t : RowSet)
    (h : ∀ row ∈ t.rows, (Json.object row).Recoverable Json.depthLimit) :
    read t.jsonLines = .ok (t.rows.map Json.object) := by
  obtain ⟨htrim, hbracket⟩ := trimStart_jsonLines t.rows
  rw [read, RowSet.jsonLines, String.toList_ofList, htrim]
  split
  -- the text begins with a brace, so the reader takes it for lines
  case h_1 heq => exact absurd heq (hbracket _)
  case h_2 =>
    rw [lines_jsonLines]
    exact readLines_object h 0

/-- An answer whose cells hold what lines and arrays are made of. -/
def tangled : RowSet where
  columns := ["id", "note"]
  rows := [[("id", .ofInt (-3)), ("note", "[1]\r\n\x7b\"a\": \u0001\x7d")],
    [("id", .number (.float (.ofRatio false 5 2))),
      ("note", .array [.object [("\n", .null)], .bool true])],
    []]

/-- Line ends, brackets and a number with a fraction come through. -/
theorem read_jsonLines_tangled :
    (∀ row ∈ tangled.rows, (Json.object row).Recoverable Json.depthLimit) ∧
    read tangled.jsonLines = .ok (tangled.rows.map Json.object) := by
  have hint : (JsonNumber.int (-3)).Storable := ⟨by decide, by decide⟩
  have hfloat : (JsonNumber.float (.ofRatio false 5 2)).Storable := by
    show Json.read? (JsonNumber.float (.ofRatio false 5 2)).text = _
    decide +kernel
  -- each cell is recovered: a text, a fraction, an array of a record and a truth value
  have hrows : ∀ row ∈ tangled.rows, (Json.object row).Recoverable Json.depthLimit := by
    have hkeys (v w : Json) : (Record.keys [("id", v), ("note", w)]).Nodup := by
      simp [Record.keys]
    refine List.forall_mem_cons.2 ⟨?_, List.forall_mem_cons.2 ⟨?_, List.forall_mem_singleton.2 ?_⟩⟩
    · refine .object (hkeys _ _) (List.forall_mem_cons.2 ⟨.number hint, ?_⟩)
      exact List.forall_mem_singleton.2 (.string _)
    · refine .object (hkeys _ _) (List.forall_mem_cons.2 ⟨.number hfloat, ?_⟩)
      refine List.forall_mem_singleton.2 (.array (List.forall_mem_cons.2 ⟨?_, ?_⟩))
      · exact .object (by decide) (List.forall_mem_singleton.2 .null)
      · exact List.forall_mem_singleton.2 (.bool true)
    · exact .object (by decide) (List.forall_mem_nil _)
  exact ⟨hrows, read_jsonLines tangled hrows⟩

end Pushdown.Dataset
