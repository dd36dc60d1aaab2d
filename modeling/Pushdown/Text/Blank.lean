/-!
# Blank text and lines

What counts as blank is the `White_Space` property of Unicode, which is wider than the blanks of
JSON or of a statement: a dataset line of no-break spaces is blank although no JSON reader would
skip it. Lines end in a line feed, optionally after one carriage return; the end of the text ends
the last line.

All functions work on lists of characters. Cutting makes nothing up: a piece between separators has
no character that the text has not (`mem_of_mem_splitOn`), and what is cut off behind a fixed start
is put back by that start (`dropLeading_eq_some_iff`).
-/

namespace Pushdown.Text

/-- **White space.** The code points with the Unicode property `White_Space`. -/
def isBlank (c : Char) : Bool :=
  let n := c.toNat
  (0x09 ≤ n && n ≤ 0x0D) || n == 0x20 || n == 0x85 || n == 0xA0 || n == 0x1680 ||
    (0x2000 ≤ n && n ≤ 0x200A) || n == 0x2028 || n == 0x2029 || n == 0x202F || n == 0x205F ||
    n == 0x3000

/-- Without the blanks at its start. -/
def trimStart (cs : List Char) : List Char :=
  cs.dropWhile isBlank

/-- Without the blanks at either end. -/
def trim (cs : List Char) : List Char :=
  (trimStart (trimStart cs).reverse).reverse

/-- Nothing but blanks. -/
def isBlankText (cs : List Char) : Bool :=
  cs.all isBlank

/-- A string without the blanks at either end. -/
def trimmed (s : String) : String :=
  String.ofList (trim s.toList)

/-- **Lines of a text**, without their ends. A carriage return belongs to the line end only when a
line feed follows it; an empty text has no lines, and a final line end starts no further line. -/
def lines : List Char → List (List Char)
  | [] => []
  | '\r' :: '\n' :: rest => [] :: lines rest
  | '\n' :: rest => [] :: lines rest
  | c :: rest =>
    match lines rest with
    | [] => [[c]]
    | line :: more => (c :: line) :: more

/-- Splits at every occurrence of a separator; a text without it is one piece. -/
def splitOn (separator : Char) : List Char → List (List Char)
  | [] => [[]]
  | c :: rest =>
    if c = separator then [] :: splitOn separator rest
    else
      match splitOn separator rest with
      | [] => [[c]]
      | piece :: more => (c :: piece) :: more

/-- Splits a text at the first occurrence of a separator, which belongs to neither part. -/
def splitFirst (separator : Char) : List Char → Option (List Char × List Char)
  | [] => none
  | c :: rest =>
    if c = separator then some ([], rest)
    else (splitFirst separator rest).map fun (before, after) => (c :: before, after)

/-- What follows `start` in a text that begins with it. -/
def dropLeading (start : List Char) (cs : List Char) : Option (List Char) :=
  match start, cs with
  | [], cs => some cs
  | _ :: _, [] => none
  | s :: start, c :: cs => if s = c then dropLeading start cs else none

@[simp] theorem trimStart_nil : trimStart [] = [] := rfl

/-- What is split is split into parts of it. -/
theorem mem_of_mem_splitOn {separator c : Char} {cs piece : List Char}
    (h : piece ∈ splitOn separator cs) (hc : c ∈ piece) : c ∈ cs := by
  fun_induction splitOn separator cs generalizing piece with
  | case1 =>
    obtain rfl := List.mem_singleton.1 h
    exact hc
  | case2 rest ih =>
    rcases List.mem_cons.1 h with rfl | h
    · exact absurd hc List.not_mem_nil
    · exact List.mem_cons_of_mem _ (ih h hc)
  | case3 d rest _ hrest ih =>
    obtain rfl := List.mem_singleton.1 h
    obtain rfl := List.mem_singleton.1 hc
    exact List.mem_cons_self
  | case4 d rest _ first more hrest ih =>
    rw [hrest] at ih
    rcases List.mem_cons.1 h with rfl | h
    · rcases List.mem_cons.1 hc with rfl | hc
      · exact List.mem_cons_self
      · exact List.mem_cons_of_mem _ (ih List.mem_cons_self hc)
    · exact List.mem_cons_of_mem _ (ih (List.mem_cons_of_mem _ h) hc)

theorem splitOn_ne_nil {separator : Char} {cs : List Char} : splitOn separator cs ≠ [] := by
  fun_cases splitOn separator cs with
  | case1 | case2 | case3 | case4 => exact nofun

theorem dropLeading_eq_some_iff {start cs rest : List Char} :
    dropLeading start cs = some rest ↔ cs = start ++ rest := by
  induction start generalizing cs with
  | nil => simp [dropLeading]
  | cons s start ih =>
    cases cs with
    | nil => simp [dropLeading]
    | cons c cs =>
      by_cases h : s = c
      · simp [dropLeading, h, ih]
      · simp [dropLeading, h, Ne.symm h]

end Pushdown.Text
