import Mathlib.Data.List.Basic
import Pushdown.Export

/-!
# Comma-separated values keep every cell in its place

Comma-separated values have a grammar. A field stands as it is or in quotes, and a quote inside
quotes is written twice; fields stand between commas, and records on lines of their own. `Reads`
relates a text to the records that it can be read as.

Readers differ in two things, and the relation takes in all of them. A line may end in a line feed,
in a carriage return or in both. A line without any character is a record with one empty field to
some and no record at all to others. So in general a text has more than one reading. A text that
was written from an answer has exactly one, `reads_csv_iff`: the names of the columns, and then the
texts of the cells, row by row.

What was written does not matter for most of it. A field ends before a comma, a line end or the end
of the text, and a quote behind a quote never ends one; so where a field begins it is known where it
ends (`Field.unique`), and likewise a record (`Fields.unique`). Of what was written it is used that
every line is a record with at least one character (`exists_fields_recordLine`).
-/

namespace Pushdown.Csv

variable {w w' m m' rest rest' e text : List Char} {f f' : String} {fs fs' : List String}
  {records : List (List String)}

/-! ### Specification -/

/-- **A character that ends a field** outside of quotes: a comma, or one of those of line ends. -/
def IsDelimiter (c : Char) : Prop := c = ',' ∨ c = '\n' ∨ c = '\r'

/-- **The characters between quotes**, and what they stand for. -/
inductive Quoted : (written meant : List Char) → Prop where
  /-- There may be none. -/
  | nil : Quoted [] []
  /-- Any character but a quote stands for itself. -/
  | char {c : Char} {w m : List Char} (hc : c ≠ '"') (h : Quoted w m) : Quoted (c :: w) (c :: m)
  /-- Two quotes stand for one. -/
  | quote {w m : List Char} (h : Quoted w m) : Quoted ('"' :: '"' :: w) ('"' :: m)

/-- **A field.** -/
inductive Field : (written : List Char) → String → Prop where
  /-- Without quotes and without delimiters it stands as it is. -/
  | plain {w : List Char} (h : ∀ c ∈ w, c ≠ '"' ∧ ¬ IsDelimiter c) : Field w (String.ofList w)
  /-- Any field may stand in quotes. -/
  | quoted {w m : List Char} (h : Quoted w m) : Field ('"' :: (w ++ ['"'])) (String.ofList m)

/-- **The fields of a record**: one, or several between commas. -/
inductive Fields : (written : List Char) → List String → Prop where
  /-- A single field. -/
  | single {w : List Char} {f : String} (h : Field w f) : Fields w [f]
  /-- A field in front of others. -/
  | further {w w' : List Char} {f : String} {fs : List String} (h : Field w f)
      (others : Fields w' fs) : Fields (w ++ ',' :: w') (f :: fs)

/-- **The end of a line.** -/
inductive LineEnd : List Char → Prop where
  | lineFeed : LineEnd ['\n']
  | carriageReturn : LineEnd ['\r']
  | both : LineEnd ['\r', '\n']

/-- **What a text can be read as.** -/
inductive Reads : (text : List Char) → List (List String) → Prop where
  /-- Nothing is no record. -/
  | nil : Reads [] []
  /-- A record on a line that is ended. -/
  | line {w e text : List Char} {fs : List String} {records : List (List String)}
      (h : Fields w fs) (hend : LineEnd e) (others : Reads text records) :
      Reads (w ++ (e ++ text)) (fs :: records)
  /-- The last line need not be ended. -/
  | last {w : List Char} {fs : List String} (h : Fields w fs) (hne : w ≠ []) : Reads w [fs]
  /-- A line without any character may be passed over. -/
  | blank {e text : List Char} {records : List (List String)} (hend : LineEnd e)
      (others : Reads text records) : Reads (e ++ text) records

/-! ### Where fields and records end -/

/-- Nothing, or a delimiter and more. -/
def EndsField (rest : List Char) : Prop := ∀ c ∈ rest.head?, IsDelimiter c

/-- Nothing, or a character of a line end and more. -/
def EndsLine (rest : List Char) : Prop := ∀ c ∈ rest.head?, c = '\n' ∨ c = '\r'

theorem EndsLine.endsField (h : EndsLine rest) : EndsField rest := fun c hc => .inr (h c hc)

theorem endsField_comma (rest : List Char) : EndsField (',' :: rest) := by
  rintro c ⟨⟩
  exact .inl rfl

theorem endsLine_nil : EndsLine [] := by
  rintro c ⟨⟩

theorem LineEnd.endsLine (h : LineEnd e) (text : List Char) : EndsLine (e ++ text) := by
  cases h with
  | lineFeed =>
    rintro c ⟨⟩
    exact .inl rfl
  | carriageReturn | both =>
    rintro c ⟨⟩
    exact .inr rfl

/-- What is behind a field does not begin with a quote. -/
theorem EndsField.ne_quote (h : EndsField ('"' :: rest)) : False := by
  have hquote : ¬ IsDelimiter '"' := by
    unfold IsDelimiter
    decide
  exact hquote (h '"' rfl)

/-- **Between quotes only the closing quote stands alone**, so it is known where they close. -/
theorem Quoted.unique (h : Quoted w m) (h' : Quoted w' m') (hrest : EndsField rest)
    (hrest' : EndsField rest') (heq : w ++ '"' :: rest = w' ++ '"' :: rest') :
    w = w' ∧ m = m' := by
  -- on the one of the two, step by step as the other has to go along
  induction h generalizing w' m' with
  | nil =>
    cases h' with
    | nil => exact ⟨rfl, rfl⟩
    | char hc => exact absurd (List.cons.inj heq).1.symm hc
    -- two quotes there would mean that a quote stands behind the field
    | quote =>
      obtain ⟨-, rfl⟩ := List.cons.inj heq
      exact hrest.ne_quote.elim
  | char hc h ih =>
    cases h' with
    | nil => exact absurd (List.cons.inj heq).1 hc
    | char hc' h' =>
      obtain ⟨rfl, htail⟩ := List.cons.inj heq
      obtain ⟨rfl, rfl⟩ := ih h' htail
      exact ⟨rfl, rfl⟩
    | quote => exact absurd (List.cons.inj heq).1 hc
  | quote h ih =>
    cases h' with
    | nil =>
      obtain ⟨-, rfl⟩ := List.cons.inj heq
      exact hrest'.ne_quote.elim
    | char hc => exact absurd (List.cons.inj heq).1.symm hc
    | quote h' =>
      obtain ⟨rfl, rfl⟩ := ih h' (List.cons.inj (List.cons.inj heq).2).2
      exact ⟨rfl, rfl⟩

/-- Characters without a delimiter, as far as they go. -/
theorem plain_unique (h : ∀ c ∈ w, c ≠ '"' ∧ ¬ IsDelimiter c)
    (h' : ∀ c ∈ w', c ≠ '"' ∧ ¬ IsDelimiter c) (hrest : EndsField rest)
    (hrest' : EndsField rest') (heq : w ++ rest = w' ++ rest') : w = w' := by
  -- one of the two is longer, and would hold a delimiter
  rcases List.append_eq_append_iff.1 heq with ⟨more, rfl, rfl⟩ | ⟨more, rfl, rfl⟩
  · cases more with
    | nil => exact (List.append_nil w).symm
    | cons c more => exact absurd (hrest c rfl) (h' c (by simp)).2
  · cases more with
    | nil => exact List.append_nil w'
    | cons c more => exact absurd (hrest' c rfl) (h c (by simp)).2

/-- A field that stands as it is does not begin as one in quotes. -/
theorem plain_ne_quoted (h : ∀ c ∈ w, c ≠ '"' ∧ ¬ IsDelimiter c) (hrest : EndsField rest)
    (heq : w ++ rest = '"' :: w') : False := by
  cases w with
  | nil =>
    obtain rfl : rest = '"' :: w' := heq
    exact hrest.ne_quote
  | cons c w => exact (h c List.mem_cons_self).1 (List.cons.inj heq).1

/-- **Where a field begins it is known where it ends**, and what it is. -/
theorem Field.unique (h : Field w f) (h' : Field w' f') (hrest : EndsField rest)
    (hrest' : EndsField rest') (heq : w ++ rest = w' ++ rest') :
    w = w' ∧ f = f' ∧ rest = rest' := by
  have hwritten : w = w' ∧ f = f' := by
    -- each form of the one against each of the other; a quote in front tells them apart
    cases h with
    | plain h =>
      cases h' with
      | plain h' =>
        obtain rfl := plain_unique h h' hrest hrest' heq
        exact ⟨rfl, rfl⟩
      | quoted => exact (plain_ne_quoted h hrest heq).elim
    | quoted h =>
      cases h' with
      | plain h' => exact (plain_ne_quoted h' hrest' heq.symm).elim
      | quoted h' =>
        rw [List.cons_append, List.cons_append, List.append_assoc, List.append_assoc] at heq
        obtain ⟨rfl, rfl⟩ := h.unique h' hrest hrest' (List.cons.inj heq).2
        exact ⟨rfl, rfl⟩
  obtain ⟨rfl, rfl⟩ := hwritten
  exact ⟨rfl, rfl, List.append_cancel_left heq⟩

/-- A line does not end at a comma. -/
theorem EndsLine.ne_comma (h : EndsLine (',' :: rest)) : False := by
  have hcomma : ¬ (',' = '\n' ∨ ',' = '\r') := by decide
  exact hcomma (h ',' rfl)

/-- **Where a record begins it is known where it ends**, and what it is. -/
theorem Fields.unique (h : Fields w fs) (h' : Fields w' fs') (hrest : EndsLine rest)
    (hrest' : EndsLine rest') (heq : w ++ rest = w' ++ rest') :
    w = w' ∧ fs = fs' ∧ rest = rest' := by
  induction h generalizing w' fs' with
  | single hf =>
    cases h' with
    | single hf' =>
      obtain ⟨rfl, rfl, rfl⟩ := hf.unique hf' hrest.endsField hrest'.endsField heq
      exact ⟨rfl, rfl, rfl⟩
    | further hf' others' =>
      rw [List.append_assoc] at heq
      obtain ⟨-, -, rfl⟩ := hf.unique hf' hrest.endsField (endsField_comma _) heq
      -- the record of one field ends at a comma, which ends no line
      exact hrest.ne_comma.elim
  | further hf others ih =>
    rw [List.append_assoc] at heq
    cases h' with
    | single hf' =>
      obtain ⟨-, -, rfl⟩ := hf.unique hf' (endsField_comma _) hrest'.endsField heq
      exact hrest'.ne_comma.elim
    | further hf' others' =>
      rw [List.append_assoc] at heq
      obtain ⟨rfl, rfl, heq⟩ := hf.unique hf' (endsField_comma _) (endsField_comma _) heq
      obtain ⟨rfl, rfl, rfl⟩ := ih others' (List.cons.inj heq).2
      exact ⟨rfl, rfl, rfl⟩

/-- A field does not begin with a delimiter. -/
theorem Field.not_isDelimiter {c : Char} (h : Field (c :: w) f) : ¬ IsDelimiter c := by
  cases h with
  | plain h => exact (h c List.mem_cons_self).2
  | quoted =>
    unfold IsDelimiter
    decide

/-- A record does not begin with a line end. -/
theorem Fields.not_endsLine (h : Fields w fs) (hne : w ≠ []) (text : List Char) :
    ¬ EndsLine (w ++ text) := by
  intro hends
  cases h with
  | @single w f hf =>
    -- its first character would be the delimiter that the line end begins with
    cases w with
    | nil => exact hne rfl
    | cons c w => exact hf.not_isDelimiter (.inr (hends c rfl))
  | @further w w' f fs hf others =>
    cases w with
    | nil => exact EndsLine.ne_comma hends
    | cons c w => exact hf.not_isDelimiter (.inr (hends c rfl))

/-! ### Lines -/

theorem reads_nil_iff : Reads [] records ↔ records = [] := by
  constructor
  · intro h
    generalize htext : ([] : List Char) = text at h
    cases h with
    | nil => rfl
    -- a record has a character or a line end behind it
    | line h hend others => cases hend <;> simp at htext
    | last h hne => exact absurd htext.symm hne
    | blank hend others => cases hend <;> simp at htext
  · rintro rfl
    exact .nil

/-- **A line with a record is read as this record**, in front of what the other lines are read as.
-/
theorem reads_line_iff (h : Fields w fs) (hne : w ≠ []) :
    Reads (w ++ '\n' :: text) records ↔ ∃ others, records = fs :: others ∧ Reads text others := by
  have hends : EndsLine ('\n' :: text) := LineEnd.lineFeed.endsLine text
  constructor
  · intro hreads
    generalize heq : w ++ '\n' :: text = whole at hreads
    cases hreads with
    | nil => simp at heq
    | @line _ e text' fs' records' h' hend others =>
      -- both are records from here on, so they have the same characters
      obtain ⟨rfl, rfl, heq⟩ := h.unique h' hends (hend.endsLine text') heq
      cases hend with
      | lineFeed =>
        obtain rfl := (List.cons.inj heq).2
        exact ⟨records', rfl, others⟩
      | carriageReturn | both => exact absurd (List.cons.inj heq).1 (by decide)
    | last h' hne' =>
      -- the last line would have to be all of it, line end included
      rw [← List.append_nil whole] at heq
      obtain ⟨-, -, heq⟩ := h.unique h' hends endsLine_nil heq
      exact absurd heq nofun
    -- the record begins with no line end
    | blank hend others => exact absurd (heq ▸ hend.endsLine _) (h.not_endsLine hne _)
  · rintro ⟨others, rfl, hothers⟩
    exact .line h .lineFeed hothers

/-! ### Writing -/

theorem quoted_doubled (cs : List Char) : Quoted (doubled cs) cs := by
  fun_induction doubled cs with
  | case1 => exact .nil
  | case2 cs ih => exact .quote ih
  | case3 c cs hc ih => exact .char hc ih

theorem needsQuotes_iff {c : Char} : needsQuotes c = true ↔ c = '"' ∨ IsDelimiter c := by
  simp only [needsQuotes, IsDelimiter, Bool.or_eq_true, beq_iff_eq]
  tauto

/-- **A field is written as a field.** -/
theorem field_fieldText (f : String) : Field (fieldText f.toList) f := by
  unfold fieldText
  split
  case isTrue =>
    have h := Field.quoted (quoted_doubled f.toList)
    rwa [String.ofList_toList] at h
  case isFalse hplain =>
    have h : Field f.toList (String.ofList f.toList) := by
      refine .plain fun c hc => ?_
      -- no character of the field is one that quotes are needed for
      have hneeds : ¬ (c = '"' ∨ IsDelimiter c) := fun h =>
        hplain (List.any_eq_true.2 ⟨c, hc, needsQuotes_iff.2 h⟩)
      exact not_or.1 hneeds
    rwa [String.ofList_toList] at h

/-- Fields between commas are a record. -/
theorem fields_joinFields (hne : fs ≠ []) :
    Fields (joinFields (fs.map fun f => fieldText f.toList)) fs := by
  induction fs with
  | nil => exact absurd rfl hne
  | cons f fs ih =>
    -- a comma stands only between two fields, so the last is a case of its own
    cases fs with
    | nil => exact .single (field_fieldText f)
    | cons f' fs => exact .further (field_fieldText f) (ih nofun)

/-- Nothing at all is a record with one empty field. -/
theorem Fields.eq_of_nil (h : Fields [] fs) : fs = [""] := by
  generalize hw : ([] : List Char) = w at h
  cases h with
  | single hf =>
    cases hf with
    | plain =>
      subst hw
      rfl
    | quoted => exact absurd hw nofun
  | further => simp at hw

/-- **Every line that is written is a record with at least one character.** -/
theorem exists_fields_recordLine (hne : fs ≠ []) :
    ∃ w, recordLine fs = w ++ ['\n'] ∧ Fields w fs ∧ w ≠ [] := by
  have hfields := fields_joinFields hne
  unfold recordLine
  dsimp only
  generalize joinFields (fs.map fun f => fieldText f.toList) = line at hfields
  cases line with
  | nil =>
    -- one empty field, which is what two quotes stand for as well
    obtain rfl := hfields.eq_of_nil
    exact ⟨['"', '"'], rfl, .single (.quoted .nil), nofun⟩
  | cons c line => exact ⟨c :: line, rfl, hfields, nofun⟩

/-- **Lines that are written are read as the records that they were written from**, and as nothing
else. -/
theorem reads_recordLines_iff {lines : List (List String)} (hlines : ∀ fs ∈ lines, fs ≠ []) :
    Reads (lines.flatMap recordLine) records ↔ records = lines := by
  induction lines generalizing records with
  | nil => exact reads_nil_iff
  | cons fs lines ih =>
    obtain ⟨hne, hlines⟩ := List.forall_mem_cons.1 hlines
    -- the line has a character, so it is read as its record and as nothing else
    obtain ⟨w, hw, hfields, hsome⟩ := exists_fields_recordLine hne
    rw [List.flatMap_cons, hw, List.append_assoc, List.singleton_append,
      reads_line_iff hfields hsome]
    simp only [ih hlines, exists_eq_right]

/-! ### Answers -/

/-- **An answer as a table of texts**: the names of its columns, and then its rows, whose cells are
in the order of the columns. -/
def tableOf (t : RowSet) : List (List String) :=
  t.columns :: t.rows.map fun row =>
    t.columns.map fun name => cellText ((Record.get? row name).getD .null)

theorem csv_eq (t : RowSet) : t.csv.toList = (tableOf t).flatMap recordLine := by
  unfold RowSet.csv tableOf
  rw [String.toList_ofList, List.flatMap_cons, List.flatMap_map]
  rfl

/-- **Every cell stays in its place.** An answer with columns is written as a text that has one
reading, its table. This has one record more than there are rows, and each of its records has as
many fields as there are columns. -/
theorem reads_csv_iff {t : RowSet} (hcolumns : t.columns ≠ []) :
    (∀ records, Reads t.csv.toList records ↔ records = tableOf t) ∧
    (tableOf t).length = 1 + t.size ∧ ∀ fs ∈ tableOf t, fs.length = t.columns.length := by
  have hlength : ∀ fs ∈ tableOf t, fs.length = t.columns.length := by
    refine List.forall_mem_cons.2 ⟨rfl, fun fs hfs => ?_⟩
    obtain ⟨row, -, rfl⟩ := List.mem_map.1 hfs
    exact List.length_map ..
  refine ⟨fun records => ?_, ?_, hlength⟩
  · rw [csv_eq]
    -- a record without fields would have no columns
    refine reads_recordLines_iff fun fs hfs hnil => hcolumns ?_
    rw [← List.length_eq_zero_iff, ← hlength fs hfs, hnil]
    rfl
  · rw [tableOf, List.length_cons, List.length_map, Nat.add_comm]
    rfl

/-- One column whose name holds a comma, and cells that are easily lost or torn apart. -/
def fragile : RowSet where
  columns := ["a,b"]
  rows := [[("a,b", .null)], [("a,b", "")], [("a,b", "one\r\n\"two\"")],
    [("a,b", .object [("k", .array [.bool true, .null])])], []]

/-- Cells without a text are records of their own, and a cell of two lines is one. -/
theorem reads_csv_fragile :
    fragile.columns ≠ [] ∧
    fragile.csv = "\"a,b\"\n\"\"\n\"\"\n\"one\r\n\"\"two\"\"\"\n\"\x7b\"\"k\"\":[true,null]\x7d\"\n\"\"\n" ∧
    Reads fragile.csv.toList
      [["a,b"], [""], [""], ["one\r\n\"two\""], ["\x7b\"k\":[true,null]\x7d"], [""]] := by
  -- a null, an empty text and a missing cell all leave an empty field
  have hcolumns : fragile.columns ≠ [] := by decide
  exact ⟨hcolumns, by decide +kernel, ((reads_csv_iff hcolumns).1 _).2 (by decide +kernel)⟩

end Pushdown.Csv
