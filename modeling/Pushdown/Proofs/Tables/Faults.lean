import Pushdown.Proofs.Json.Allowance
import Pushdown.Proofs.Number.Digits
import Pushdown.Tables.Dataset

/-!
# Where a dataset is at fault

A dataset that is no array is read line by line. A line at fault is one that is neither blank nor a
JSON value, and reading fails exactly if there is one; the failure names the first by a number,
`read_names_line`.

The number is not in general that of the line in the text. The blanks in front of a dataset are
trimmed off before it is taken apart, and with them go all blank lines in front of the first record
and the indentation of the line in which it begins (`lines_trimStart`). So lines are numbered from
that one on, `read_misnames_line`, while blank lines behind it are counted.

What the indentation is made of matters as well, since there are more blanks than JSON knows. As
long as it consists of the four that JSON skips itself, a line is at fault with it exactly if it is
without it (`firstFault_unindented_iff`, which rests on `Json.read_skipBlanks`). A line that is
indented by any other blank is at fault as it stands (`read_of_skipBlanks`), and is read without.
-/

namespace Pushdown.Dataset

open Number

variable {line : List Char} {lines before : List (List Char)} {cause : Json.ReadError}
  {position : Nat} {e : QueryError}

/-! ### Specification -/

/-- **A faulty line**: it is not blank, and it is no JSON value for some cause. -/
def IsFaulty (line : List Char) (cause : Json.ReadError) : Prop :=
  Text.isBlankText line = false ∧ Json.read line = .error cause

/-- **The first fault of lines**: at a position stands a faulty line, and at no earlier one. -/
def FirstFault (lines : List (List Char)) (position : Nat) (cause : Json.ReadError) : Prop :=
  (∃ line, lines[position]? = some line ∧ IsFaulty line cause) ∧
    ∀ earlier < position, ∀ line, lines[earlier]? = some line → ∀ other, ¬ IsFaulty line other

/-- The failure that names a line by a number. -/
def faultOnLine (number : Nat) (cause : Json.ReadError) : QueryError :=
  .invalid ("bad JSON on line " ++ intText number ++ ": " ++ cause.message)

/-- How many blank lines stand in front of the first record. -/
def leadingBlankLines (lines : List (List Char)) : Nat := (lines.takeWhile Text.isBlankText).length

/-- Lines from the first record on, without the blanks that this is indented by. -/
def fromRecord (lines : List (List Char)) : List (List Char) :=
  (lines.dropWhile Text.isBlankText).modifyHead Text.trimStart

/-- Lines without the blanks that the first record is indented by, each in its place. -/
def unindented (lines : List (List Char)) : List (List Char) :=
  lines.takeWhile Text.isBlankText ++ fromRecord lines

/-- **The first record is indented as JSON values may be.** -/
def IndentedAsJson (lines : List (List Char)) : Prop :=
  ∀ line ∈ (lines.dropWhile Text.isBlankText).head?, ∀ c ∈ line.takeWhile Text.isBlank,
    Json.isJsonBlank c = true

/-! ### First faults -/

theorem not_isFaulty_of_blank (h : Text.isBlankText line = true) : ¬ IsFaulty line cause :=
  fun hfault => absurd (hfault.1.symm.trans h) nofun

theorem not_isFaulty_of_read {v : Json} (h : Json.read line = .ok v) : ¬ IsFaulty line cause :=
  fun hfault => absurd (h.symm.trans hfault.2) nofun

theorem not_firstFault_nil : ¬ FirstFault [] position cause := by
  rintro ⟨⟨line, hline, -⟩, -⟩
  exact absurd hline nofun

theorem firstFault_zero_iff : FirstFault (line :: lines) 0 cause ↔ IsFaulty line cause := by
  constructor
  · rintro ⟨⟨line', hline, hfault⟩, -⟩
    obtain rfl := Option.some.inj hline
    exact hfault
  · intro hfault
    exact ⟨⟨line, rfl, hfault⟩, fun earlier h => absurd h (by omega)⟩

theorem firstFault_succ_iff : FirstFault (line :: lines) (position + 1) cause ↔
    (∀ other, ¬ IsFaulty line other) ∧ FirstFault lines position cause := by
  constructor
  · rintro ⟨hline, hfirst⟩
    -- at the head stands no fault, and the others stand one further in front
    refine ⟨hfirst 0 (by omega) line rfl, hline, fun earlier hearlier => ?_⟩
    exact hfirst (earlier + 1) (by omega)
  · rintro ⟨hhead, hline, hfirst⟩
    refine ⟨hline, fun earlier hearlier => ?_⟩
    cases earlier with
    | zero =>
      rintro line' hline'
      obtain rfl := Option.some.inj hline'
      exact hhead
    | succ earlier => exact hfirst earlier (by omega)

/-- **There is a first fault if there is a faulty line.** -/
theorem exists_firstFault_iff : (∃ position cause, FirstFault lines position cause) ↔
    ∃ line ∈ lines, ∃ cause, IsFaulty line cause := by
  constructor
  · rintro ⟨position, cause, ⟨line, hline, hfault⟩, -⟩
    exact ⟨line, List.mem_of_getElem? hline, cause, hfault⟩
  · -- line by line: the first one at fault, or the first of those behind
    intro h
    induction lines with
    | nil => simp at h
    | cons line lines ih =>
      by_cases hline : ∃ cause, IsFaulty line cause
      · obtain ⟨cause, hfault⟩ := hline
        exact ⟨0, cause, firstFault_zero_iff.2 hfault⟩
      · obtain ⟨faulty, hmem, hfault⟩ := h
        -- the faulty line is not this one, so it is one of those behind it
        have hne : faulty ≠ line := by
          rintro rfl
          exact hline hfault
        obtain ⟨position, cause, hfirst⟩ :=
          ih ⟨faulty, (List.mem_cons.1 hmem).resolve_left hne, hfault⟩
        exact ⟨position + 1, cause, firstFault_succ_iff.2 ⟨not_exists.1 hline, hfirst⟩⟩

/-- Behind a line without a fault everything stands one further. -/
theorem firstFault_cons_iff (h : ∀ other, ¬ IsFaulty line other) :
    FirstFault (line :: lines) position cause ↔
      ∃ behind, position = behind + 1 ∧ FirstFault lines behind cause := by
  -- the line itself is none, so the position is that of a line behind
  cases position with
  | zero =>
    rw [firstFault_zero_iff]
    refine iff_of_false (h cause) ?_
    rintro ⟨behind, hposition, -⟩
    omega
  | succ position =>
    rw [firstFault_succ_iff, and_iff_right h]
    constructor
    · exact fun hfirst => ⟨position, rfl, hfirst⟩
    · rintro ⟨behind, hposition, hfirst⟩
      obtain rfl : position = behind := by omega
      exact hfirst

/-- **Behind lines without a fault** the first fault is that of the rest. -/
theorem firstFault_append_iff (h : ∀ line ∈ before, ∀ other, ¬ IsFaulty line other) :
    FirstFault (before ++ lines) position cause ↔
      ∃ behind, position = before.length + behind ∧ FirstFault lines behind cause := by
  -- each of the lines in front moves the position by one
  induction before generalizing position with
  | nil => simp
  | cons line before ih =>
    obtain ⟨hline, hbefore⟩ := List.forall_mem_cons.1 h
    rw [List.cons_append, List.length_cons, firstFault_cons_iff hline]
    constructor
    · rintro ⟨further, rfl, hfurther⟩
      obtain ⟨behind, rfl, hfirst⟩ := (ih hbefore).1 hfurther
      exact ⟨behind, by omega, hfirst⟩
    · rintro ⟨behind, rfl, hfirst⟩
      exact ⟨before.length + behind, by omega, (ih hbefore).2 ⟨behind, rfl, hfirst⟩⟩

/-- Blank lines in front are no faults. -/
theorem firstFault_leading_iff {others : List (List Char)} :
    FirstFault (lines.takeWhile Text.isBlankText ++ others) position cause ↔
      ∃ behind, position = leadingBlankLines lines + behind ∧ FirstFault others behind cause :=
  firstFault_append_iff fun _ hline _ => not_isFaulty_of_blank (List.mem_takeWhile_imp hline)

theorem firstFault_cons_congr {line' : List Char}
    (h : ∀ cause, IsFaulty line cause ↔ IsFaulty line' cause) :
    FirstFault (line :: lines) position cause ↔ FirstFault (line' :: lines) position cause := by
  cases position with
  | zero => rw [firstFault_zero_iff, firstFault_zero_iff, h]
  | succ position => simp only [firstFault_succ_iff, h]

/-! ### Lines that are read -/

/-- **Lines fail at their first fault**, under its number. -/
theorem readNumbered_eq_error_iff (start : Nat) :
    ((numberedFrom start lines).filter fun line => !Text.isBlankText line.2).mapM readLine =
      .error e ↔ ∃ position cause, FirstFault lines position cause ∧
        e = faultOnLine (start + position + 1) cause := by
  induction lines generalizing start with
  | nil =>
    refine iff_of_false nofun ?_
    rintro ⟨position, cause, h, -⟩
    exact not_firstFault_nil h
  | cons line lines ih =>
    -- a line that is blank or a value leaves the fault to the lines behind it
    have hbehind (hline : ∀ other, ¬ IsFaulty line other) :
        ((numberedFrom (start + 1) lines).filter fun line =>
          !Text.isBlankText line.2).mapM readLine = .error e ↔
        ∃ position cause, FirstFault (line :: lines) position cause ∧
          e = faultOnLine (start + position + 1) cause := by
      rw [ih (start + 1)]
      constructor
      · rintro ⟨position, cause, hfirst, rfl⟩
        refine ⟨position + 1, cause, (firstFault_cons_iff hline).2 ⟨position, rfl, hfirst⟩, ?_⟩
        rw [show start + 1 + position = start + (position + 1) by omega]
      · rintro ⟨position, cause, hposition, rfl⟩
        obtain ⟨behind, rfl, hfirst⟩ := (firstFault_cons_iff hline).1 hposition
        refine ⟨behind, cause, hfirst, ?_⟩
        rw [show start + 1 + behind = start + (behind + 1) by omega]
    rw [numberedFrom, List.filter_cons]
    cases hblank : Text.isBlankText line with
    | true => exact hbehind fun other => not_isFaulty_of_blank hblank
    | false =>
      rw [if_pos Bool.not_false, List.mapM_cons]
      cases hread : Json.read line with
      | ok v =>
        have hvalue : readLine (start, line) = .ok v := by rw [readLine, hread]
        rw [hvalue, ← hbehind fun other => not_isFaulty_of_read hread]
        -- what is read behind the line is only put behind its value
        cases ((numberedFrom (start + 1) lines).filter fun line =>
          !Text.isBlankText line.2).mapM readLine with
        | ok values => exact iff_of_false nofun nofun
        | error e' => exact Iff.rfl
      | error cause =>
        have hfault : readLine (start, line) = .error (faultOnLine (start + 0 + 1) cause) := by
          rw [readLine, hread]
          rfl
        rw [hfault]
        -- a faulty line fails, whatever stands behind it
        constructor
        · intro h
          exact ⟨0, cause, firstFault_zero_iff.2 ⟨hblank, hread⟩, (Except.error.inj h).symm⟩
        · rintro ⟨position, cause', hfirst, rfl⟩
          cases position with
          | zero =>
            obtain ⟨-, hread'⟩ := firstFault_zero_iff.1 hfirst
            obtain rfl := Except.error.inj (hread.symm.trans hread')
            rfl
          | succ position => exact absurd ⟨hblank, hread⟩ ((firstFault_succ_iff.1 hfirst).1 cause)

/-! ### The blanks in front of the first record -/

section

variable {c : Char} {more : List (List Char)}

theorem trimStart_cons_of_blank (hc : Text.isBlank c = true) (cs : List Char) :
    Text.trimStart (c :: cs) = Text.trimStart cs := List.dropWhile_cons_of_pos hc

theorem trimStart_cons_of_not (hc : Text.isBlank c = false) (cs : List Char) :
    Text.trimStart (c :: cs) = c :: cs := List.dropWhile_cons_of_neg (by simp [hc])

theorem fromRecord_cons_of_blank (hc : Text.isBlank c = true) :
    fromRecord ((c :: line) :: more) = fromRecord (line :: more) := by
  -- a blank in front does not change whether the line is blank
  have hblank : Text.isBlankText (c :: line) = Text.isBlankText line := by
    rw [Text.isBlankText, List.all_cons, hc, Bool.true_and]
    rfl
  unfold fromRecord
  rw [List.dropWhile_cons, List.dropWhile_cons, hblank]
  split
  case isTrue => rfl
  case isFalse => exact congrArg (· :: more) (trimStart_cons_of_blank hc line)

theorem fromRecord_cons_of_not (hc : Text.isBlank c = false) :
    fromRecord ((c :: line) :: more) = (c :: line) :: more := by
  have hblank : Text.isBlankText (c :: line) = false := by
    rw [Text.isBlankText, List.all_cons, hc, Bool.false_and]
  unfold fromRecord
  rw [List.dropWhile_cons_of_neg (by simp [hblank])]
  exact congrArg (· :: more) (trimStart_cons_of_not hc line)

/-- **What is trimmed off a text are its blank lines and the indentation of the next one.** -/
theorem lines_trimStart (cs : List Char) :
    Text.lines (Text.trimStart cs) = fromRecord (Text.lines cs) := by
  -- along the text, which is cut at each line end
  fun_induction Text.lines cs with
  | case1 => rfl
  | case2 rest ih | case3 rest ih => exact ih
  | case4 c rest hreturn hfeed hrest ih =>
    -- the last line has this character alone
    have hwhole : Text.lines (c :: rest) = [[c]] := by
      rw [Text.lines, hrest]
      · exact hreturn
      · exact hfeed
    cases hc : Text.isBlank c with
    | true =>
      rw [trimStart_cons_of_blank hc, ih, hrest, fromRecord_cons_of_blank hc]
      rfl
    | false => rw [trimStart_cons_of_not hc, hwhole, fromRecord_cons_of_not hc]
  | case5 c rest hreturn hfeed line more hrest ih =>
    -- the character belongs to the line that follows
    have hwhole : Text.lines (c :: rest) = (c :: line) :: more := by
      rw [Text.lines, hrest]
      · exact hreturn
      · exact hfeed
    cases hc : Text.isBlank c with
    | true => rw [trimStart_cons_of_blank hc, ih, hrest, fromRecord_cons_of_blank hc]
    | false => rw [trimStart_cons_of_not hc, hwhole, fromRecord_cons_of_not hc]

theorem isBlankText_trimStart (line : List Char) :
    Text.isBlankText (Text.trimStart line) = Text.isBlankText line := by
  -- blank by blank, until the first that is none
  induction line with
  | nil => rfl
  | cons c line ih =>
    cases hc : Text.isBlank c with
    | true =>
      rw [trimStart_cons_of_blank hc, ih, Text.isBlankText, Text.isBlankText, List.all_cons, hc,
        Bool.true_and]
    | false => rw [trimStart_cons_of_not hc]

theorem isBlank_of_isJsonBlank (h : Json.isJsonBlank c = true) : Text.isBlank c = true := by
  simp only [Json.isJsonBlank, Bool.or_eq_true, beq_iff_eq] at h
  rcases h with ((rfl | rfl) | rfl) | rfl <;> rfl

/-- Where all blanks are those of JSON it does not matter who skips them. -/
theorem trimStart_eq_skipBlanks
    (h : ∀ c ∈ line.takeWhile Text.isBlank, Json.isJsonBlank c = true) :
    Text.trimStart line = Json.skipBlanks line := by
  -- a blank is skipped by both, as it is one of JSON's
  induction line with
  | nil => rfl
  | cons c line ih =>
    cases hc : Text.isBlank c with
    | true =>
      rw [List.takeWhile_cons_of_pos hc, List.forall_mem_cons] at h
      rw [trimStart_cons_of_blank hc, ih h.2, Json.skipBlanks, Json.skipBlanks,
        List.dropWhile_cons_of_pos h.1]
    | false =>
      have hjson : ¬ Json.isJsonBlank c = true :=
        fun hjson => absurd (hc.symm.trans (isBlank_of_isJsonBlank hjson)) nofun
      rw [trimStart_cons_of_not hc, Json.skipBlanks, List.dropWhile_cons_of_neg hjson]

theorem exists_skipBlanks_eq
    (h : ∃ c ∈ line.takeWhile Text.isBlank, ¬ Json.isJsonBlank c = true) :
    ∃ c rest, Json.skipBlanks line = c :: rest ∧ Text.isBlank c = true := by
  -- the first blank that JSON does not know, with only its own in front
  induction line with
  | nil => simp at h
  | cons c line ih =>
    obtain ⟨d, hd, hjson⟩ := h
    cases hc : Text.isBlank c with
    | false => simp [hc] at hd
    | true =>
      by_cases hcjson : Json.isJsonBlank c = true
      · rw [List.takeWhile_cons_of_pos hc] at hd
        have hne : d ≠ c := fun hdc => hjson (hdc ▸ hcjson)
        obtain ⟨e, rest, hrest, he⟩ := ih ⟨d, (List.mem_cons.1 hd).resolve_left hne, hjson⟩
        exact ⟨e, rest, (List.dropWhile_cons_of_pos hcjson).trans hrest, he⟩
      · exact ⟨c, line, List.dropWhile_cons_of_neg hcjson, hc⟩

theorem toNat_of_isBlank (h : Text.isBlank c = true) : c.toNat ≤ 0x20 ∨ 0x85 ≤ c.toNat := by
  simp only [Text.isBlank, Bool.or_eq_true, Bool.and_eq_true, decide_eq_true_eq, beq_iff_eq] at h
  omega

/-- **A blank that JSON does not know opens no value.** -/
theorem read_of_skipBlanks {rest : List Char} (h : Json.skipBlanks line = c :: rest)
    (hc : Text.isBlank c = true) : Json.read line = .error (.unexpected c) := by
  have hbounds := toNat_of_isBlank hc
  have hvalue (allowance depth : Nat) :
      Json.readValue (allowance + 1) depth line = .error (.unexpected c) := by
    have hne {d : Char} (hd : 0x20 < d.toNat ∧ d.toNat < 0x85) : c ≠ d := by
      rintro rfl
      omega
    have hdigit : ¬ c.isDigit = true := by
      intro hd
      have hdigits := toNat_of_isDigit hd
      omega
    -- the character is none of those that a value can begin with
    rw [Json.readValue, h]
    split
    case h_1 heq => cases heq
    case h_2 heq => exact absurd (List.cons.inj heq).1 (hne (by decide))
    case h_3 heq => exact absurd (List.cons.inj heq).1 (hne (by decide))
    case h_4 heq => exact absurd (List.cons.inj heq).1 (hne (by decide))
    case h_5 heq =>
      obtain ⟨rfl, rfl⟩ := List.cons.inj heq
      rw [if_neg (hne (by decide)), if_neg (hne (by decide)), if_neg (hne (by decide)),
        if_neg (not_or.2 ⟨hne (by decide), hdigit⟩)]
  rw [Json.read, Json.readAsWritten, hvalue]
  rfl

/-! ### Faults in front of which there are blanks -/

/-- **JSON's own blanks hide no fault and make none.** -/
theorem firstFault_unindented_iff (h : IndentedAsJson lines) :
    FirstFault (unindented lines) position cause ↔ FirstFault lines position cause := by
  have hrest (behind : Nat) : FirstFault (fromRecord lines) behind cause ↔
      FirstFault (lines.dropWhile Text.isBlankText) behind cause := by
    unfold IndentedAsJson at h
    unfold fromRecord
    cases hdrop : lines.dropWhile Text.isBlankText with
    | nil => rfl
    | cons line more =>
      rw [hdrop] at h
      -- the line is blank exactly if it is without its indentation, and read as that is
      refine firstFault_cons_congr fun other => ?_
      unfold IsFaulty
      rw [isBlankText_trimStart, trimStart_eq_skipBlanks (h line rfl), Json.read_skipBlanks]
  have hsplit := List.takeWhile_append_dropWhile (p := Text.isBlankText) (l := lines)
  calc FirstFault (unindented lines) position cause
      ↔ FirstFault (lines.takeWhile Text.isBlankText ++ lines.dropWhile Text.isBlankText)
          position cause := by
        unfold unindented
        simp only [firstFault_leading_iff, hrest]
    _ ↔ FirstFault lines position cause := by rw [hsplit]

/-- Any other blank makes a fault of the line in which the first record begins. -/
theorem exists_firstFault_of_not (h : ¬ IndentedAsJson lines) :
    ∃ cause, FirstFault lines (leadingBlankLines lines) cause := by
  simp only [IndentedAsJson, not_forall] at h
  obtain ⟨line, hline, d, hd, hjson⟩ := h
  obtain ⟨more, hmore⟩ := List.head?_eq_some_iff.1 hline
  -- the line that the first record begins in is not blank
  have hnot : Text.isBlankText line = false := by
    have hhead := List.head?_dropWhile_not Text.isBlankText lines
    rw [hmore] at hhead
    exact hhead
  obtain ⟨c, rest, hrest, hc⟩ := exists_skipBlanks_eq ⟨d, hd, hjson⟩
  have hfault : FirstFault (line :: more) 0 (.unexpected c) :=
    firstFault_zero_iff.2 ⟨hnot, read_of_skipBlanks hrest hc⟩
  have hsplit := List.takeWhile_append_dropWhile (p := Text.isBlankText) (l := lines)
  have hfirst : FirstFault (lines.takeWhile Text.isBlankText ++ line :: more)
      (leadingBlankLines lines + 0) (.unexpected c) :=
    firstFault_leading_iff.2 ⟨0, rfl, hfault⟩
  rw [← hmore, hsplit] at hfirst
  exact ⟨.unexpected c, hfirst⟩

end

variable {text : String}

theorem read_eq_error_iff (htext : (Text.trimStart text.toList).head? ≠ some '[') :
    read text = .error e ↔ ∃ behind cause,
      FirstFault (fromRecord (Text.lines text.toList)) behind cause ∧
        e = faultOnLine (behind + 1) cause := by
  -- a text without a bracket in front is read by lines
  have hread : read text = readLines (Text.lines (Text.trimStart text.toList)) := by
    unfold read
    split
    case h_1 rest heq => exact absurd (congrArg List.head? heq) htext
    case h_2 => rfl
  rw [hread, lines_trimStart, readLines, readNumbered_eq_error_iff]
  simp only [Nat.zero_add]

/-- **A dataset of lines fails exactly if one of them is faulty**, and the failure names the first
that is, by its number from the first record on: the blank lines in front of that are not counted.
The blanks by which the first record is indented are passed over. If they are JSON's own, that
makes no difference; if not, its line is read although it is a faulty one. -/
theorem read_names_line (htext : (Text.trimStart text.toList).head? ≠ some '[') :
    ((∃ e, read text = .error e) ↔
      ∃ line ∈ unindented (Text.lines text.toList), ∃ cause, IsFaulty line cause) ∧
    (∀ e, read text = .error e ↔ ∃ position cause,
      FirstFault (unindented (Text.lines text.toList)) position cause ∧
        e = faultOnLine (position + 1 - leadingBlankLines (Text.lines text.toList)) cause) ∧
    (IndentedAsJson (Text.lines text.toList) → ∀ position cause,
      FirstFault (unindented (Text.lines text.toList)) position cause ↔
        FirstFault (Text.lines text.toList) position cause) ∧
    (¬ IndentedAsJson (Text.lines text.toList) → ∃ cause,
      FirstFault (Text.lines text.toList) (leadingBlankLines (Text.lines text.toList)) cause) := by
  -- the position counts from the first line, and the number from the first record
  have hnumber (behind : Nat) : leadingBlankLines (Text.lines text.toList) + behind + 1 -
      leadingBlankLines (Text.lines text.toList) = behind + 1 := by omega
  have hread (e : QueryError) : read text = .error e ↔ ∃ position cause,
      FirstFault (unindented (Text.lines text.toList)) position cause ∧
        e = faultOnLine (position + 1 - leadingBlankLines (Text.lines text.toList)) cause := by
    rw [read_eq_error_iff htext]
    constructor
    · rintro ⟨behind, cause, hfirst, rfl⟩
      refine ⟨_, cause, firstFault_leading_iff.2 ⟨behind, rfl, hfirst⟩, ?_⟩
      rw [hnumber]
    · rintro ⟨position, cause, hposition, rfl⟩
      obtain ⟨behind, rfl, hfirst⟩ := firstFault_leading_iff.1 hposition
      refine ⟨behind, cause, hfirst, ?_⟩
      rw [hnumber]
  refine ⟨?_, hread, fun h position cause => firstFault_unindented_iff h,
    exists_firstFault_of_not⟩
  -- a failure is that of a first fault, and there is one if any line is faulty
  rw [← exists_firstFault_iff]
  constructor
  · rintro ⟨e, he⟩
    obtain ⟨position, cause, hfirst, -⟩ := (hread e).1 he
    exact ⟨position, cause, hfirst⟩
  · rintro ⟨position, cause, hfirst⟩
    exact ⟨_, (hread _).2 ⟨position, cause, hfirst, rfl⟩⟩

/-- Two records and a word, with blank lines between them and one in front. -/
def spacedOut : String := "\n \x7b\"a\": 1\x7d\n\n\t\noops\n[2]\n"

/-- The word stands on the fifth line and is reported on the fourth. -/
theorem read_names_line_spacedOut :
    (Text.trimStart spacedOut.toList).head? ≠ some '[' ∧
    FirstFault (Text.lines spacedOut.toList) 4 (.unexpected 'o') ∧
    read spacedOut = .error (faultOnLine 4 (.unexpected 'o')) := by
  have htext : (Text.trimStart spacedOut.toList).head? ≠ some '[' := by decide
  have hlines : Text.lines spacedOut.toList =
      [[], " \x7b\"a\": 1\x7d".toList, [], ['\t'], "oops".toList, "[2]".toList] := by decide
  have hvalue : Json.read " \x7b\"a\": 1\x7d".toList = .ok (.object [("a", .ofInt 1)]) :=
    eq_ok_of_toOption (by decide +kernel)
  have hfault : IsFaulty "oops".toList (.unexpected 'o') := ⟨rfl, rfl⟩
  -- the lines before the word are blank or a value
  have hblank {line : List Char} (h : Text.isBlankText line = true) (other : Json.ReadError) :
      ¬ IsFaulty line other := not_isFaulty_of_blank h
  have hfirst : FirstFault (Text.lines spacedOut.toList) 4 (.unexpected 'o') := by
    rw [hlines]
    refine firstFault_succ_iff.2 ⟨hblank rfl, firstFault_succ_iff.2 ⟨?_, ?_⟩⟩
    · exact fun other => not_isFaulty_of_read hvalue
    · refine firstFault_succ_iff.2 ⟨hblank rfl, firstFault_succ_iff.2 ⟨hblank rfl, ?_⟩⟩
      exact firstFault_zero_iff.2 hfault
  have hindented : IndentedAsJson (Text.lines spacedOut.toList) := by
    rw [hlines]
    rintro line ⟨⟩
    -- the only blank in front of the first record is a space
    have hblanks : " \x7b\"a\": 1\x7d".toList.takeWhile Text.isBlank = [' '] := by decide
    rw [hblanks]
    exact List.forall_mem_singleton.2 rfl
  obtain ⟨-, hread, hsame, -⟩ := read_names_line htext
  have hleading : leadingBlankLines (Text.lines spacedOut.toList) = 1 := by
    rw [hlines]
    decide
  refine ⟨htext, hfirst, (hread _).2 ⟨4, _, (hsame hindented 4 _).2 hfirst, ?_⟩⟩
  rw [hleading]

/-- **The number need not be that of the line**: here the second line is at fault, and the first one
is named. -/
theorem read_misnames_line : FirstFault (Text.lines "\n\x7boops".toList) 1 (.unexpected 'o') ∧
    read "\n\x7boops" = .error (faultOnLine 1 (.unexpected 'o')) ∧
    ∀ cause, read "\n\x7boops" ≠ .error (faultOnLine 2 cause) := by
  have hlines : Text.lines "\n\x7boops".toList = [[], "\x7boops".toList] := by decide
  have hfault : IsFaulty "\x7boops".toList (.unexpected 'o') := ⟨rfl, rfl⟩
  have hread : read "\n\x7boops" = .error (faultOnLine 1 (.unexpected 'o')) := by
    refine (read_eq_error_iff (by decide)).2 ⟨0, _, ?_, rfl⟩
    rw [hlines]
    exact firstFault_zero_iff.2 hfault
  refine ⟨?_, hread, fun cause h => ?_⟩
  · rw [hlines]
    exact firstFault_succ_iff.2
      ⟨fun _ => not_isFaulty_of_blank rfl, firstFault_zero_iff.2 hfault⟩
  · -- the two failures differ in the digit behind the words in front of it
    have hmessage := QueryError.invalid.inj (Except.error.inj (hread.symm.trans h))
    have hone : intText ((1 : Nat) : Int) = "1" := by decide
    have htwo : intText ((2 : Nat) : Int) = "2" := by decide
    rw [hone, htwo, String.append_assoc, String.append_assoc, String.append_assoc,
      String.append_assoc] at hmessage
    have hdigit := congrArg (fun s : String => s.toList[17]?) hmessage
    simp at hdigit

end Pushdown.Dataset
