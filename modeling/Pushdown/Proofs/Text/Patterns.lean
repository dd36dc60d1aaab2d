import Mathlib.Data.List.Forall2
import Pushdown.Text.Wildcard

/-!
# What a pattern matches

A pattern matches a text if the text can be cut into pieces, one for each character of the pattern
and in their order, so that every character can take its piece: a `%` any piece, a `_` one
character, and every other character itself (`Cuts`). Nothing is left over on either side, as the
pieces make up the whole text.

`Matches` says the same by how a text begins, and `matches_iff_cuts` joins the two. The test works
with rows of truth values, one for each suffix of the pattern. The invariant of a row is `Decides`:
every entry says whether its suffix matches the text read so far, which is a suffix as well. A row
is made from the row of a text shorter by its first character, and the equations of `Matches` for a
text that begins with a character are what its entries are computed by.
-/

namespace Pushdown.Wildcard

variable {pattern text : List Char} {c d : Char}

/-! ### Matches, by the first characters -/

theorem not_matches_nil_cons : ¬ Matches [] (c :: text) := nofun

/-- A run takes nothing of nothing. -/
theorem matches_run_nil_iff : Matches ('%' :: pattern) [] ↔ Matches pattern [] := by
  constructor
  · intro h
    cases h with
    | runEnd h => exact h
  · exact .runEnd

/-- A run takes nothing, or the first character and then goes on. -/
theorem matches_run_cons_iff : Matches ('%' :: pattern) (c :: text) ↔
    Matches ('%' :: pattern) text ∨ Matches pattern (c :: text) := by
  constructor
  · -- the last step of the match tells what the run took
    intro h
    cases h with
    | runEnd h => exact .inr h
    | runMore _ h => exact .inl h
    | self _ hrun _ _ => exact absurd rfl hrun
  · rintro (h | h)
    · exact .runMore c h
    · exact .runEnd h

/-- Whatever is no run takes something. -/
theorem not_matches_cons_nil (hd : d ≠ '%') : ¬ Matches (d :: pattern) [] := by
  intro h
  cases h with
  | runEnd _ => exact hd rfl

/-- Whatever is no run takes one character, which is any or itself. -/
theorem matches_cons_cons_iff (hd : d ≠ '%') : Matches (d :: pattern) (c :: text) ↔
    (d = '_' ∨ d = c) ∧ Matches pattern text := by
  constructor
  · intro h
    cases h with
    | runEnd _ | runMore _ _ => exact absurd rfl hd
    | any _ h => exact ⟨.inl rfl, h⟩
    | self _ _ _ h => exact ⟨.inr rfl, h⟩
  · rintro ⟨hfits, h⟩
    by_cases hany : d = '_'
    · subst hany
      exact .any c h
    · obtain rfl := hfits.resolve_left hany
      exact .self d hd hany h

/-! ### Rows -/

/-- **A row decides a text**: it says of every suffix of the pattern whether it matches. -/
def Decides (text pattern : List Char) (row : List Bool) : Prop :=
  List.Forall₂ (fun suffix matched => matched = true ↔ Matches suffix text) pattern.tails row

theorem decides_nil_iff {row : List Bool} :
    Decides text [] row ↔ ∃ b, (b = true ↔ Matches [] text) ∧ row = [b] := by
  refine List.forall₂_cons_left_iff.trans ?_
  simp only [List.forall₂_nil_left_iff]
  constructor
  · -- both ways go through the one entry that a row of nothing has
    rintro ⟨b, _, hb, rfl, hrow⟩
    exact ⟨b, hb, hrow⟩
  · rintro ⟨b, hb, hrow⟩
    exact ⟨b, [], hb, rfl, hrow⟩

/-- The first entry is about the whole pattern. -/
theorem decides_cons_iff {row : List Bool} : Decides text (d :: pattern) row ↔
    ∃ b rest, (b = true ↔ Matches (d :: pattern) text) ∧ Decides text pattern rest ∧
      row = b :: rest :=
  List.forall₂_cons_left_iff

theorem Decides.headD_iff {row : List Bool} (h : Decides text pattern row) :
    row.headD false = true ↔ Matches pattern text := by
  cases pattern with
  | nil =>
    obtain ⟨b, hb, rfl⟩ := decides_nil_iff.1 h
    exact hb
  | cons d pattern =>
    obtain ⟨b, rest, hb, -, rfl⟩ := decides_cons_iff.1 h
    exact hb

/-- Of the empty text runs can be made, and nothing else. -/
theorem emptyRow_decides (pattern : List Char) : Decides [] pattern (emptyRow pattern) := by
  induction pattern with
  | nil => exact decides_nil_iff.2 ⟨true, iff_of_true rfl .nil, rfl⟩
  | cons d pattern ih =>
    -- the text is empty, so a run needs the rest to match and nothing else will do
    refine decides_cons_iff.2 ⟨_, _, ?_, ih, rfl⟩
    rw [Bool.and_eq_true, beq_iff_eq, ih.headD_iff]
    by_cases hd : d = '%'
    · subst hd
      rw [matches_run_nil_iff]
      exact and_iff_right rfl
    · exact iff_of_false (fun h => hd h.1) (not_matches_cons_nil hd)

/-- **One more character in front of the text.** -/
theorem stepRow_decides (c : Char) {shorter : List Bool} (h : Decides text pattern shorter) :
    Decides (c :: text) pattern (stepRow c pattern shorter) := by
  induction pattern generalizing shorter with
  | nil => exact decides_nil_iff.2 ⟨false, iff_of_false nofun not_matches_nil_cons, rfl⟩
  | cons d pattern ih =>
    obtain ⟨here, below, hhere, hbelow, rfl⟩ := decides_cons_iff.1 h
    -- the entries behind are made first, since a run looks at the one right behind it
    have hrest := ih hbelow
    refine decides_cons_iff.2 ⟨_, _, ?_, hrest, rfl⟩
    by_cases hd : d = '%'
    · subst hd
      rw [if_pos rfl, Bool.or_eq_true, hrest.headD_iff, hhere, matches_run_cons_iff]
      exact or_comm
    · rw [if_neg hd, Bool.and_eq_true, Bool.or_eq_true, beq_iff_eq, beq_iff_eq, hbelow.headD_iff,
        matches_cons_cons_iff hd]

theorem row_decides (pattern text : List Char) : Decides text pattern (row pattern text) := by
  induction text with
  | nil => exact emptyRow_decides pattern
  | cons c text ih => exact stepRow_decides c ih

/-- **The test is whether the pattern matches.** -/
theorem test_iff_matches {pattern text : String} :
    test pattern text = true ↔ Matches pattern.toList text.toList :=
  (row_decides pattern.toList text.toList).headD_iff

/-! ### Pieces -/

/-- **What a character of a pattern can take of a text.** -/
inductive Takes : (wildcard : Char) → (piece : List Char) → Prop where
  /-- A run takes anything. -/
  | run (piece : List Char) : Takes '%' piece
  /-- One wildcard takes any one character. -/
  | any (c : Char) : Takes '_' [c]
  /-- A character takes itself. -/
  | self (c : Char) : c ≠ '%' → c ≠ '_' → Takes c [c]

/-- **A text can be cut for a pattern**: into consecutive pieces, one for each character of the
pattern, that these can take. -/
def Cuts (pattern text : List Char) : Prop :=
  ∃ pieces, List.Forall₂ Takes pattern pieces ∧ pieces.flatten = text

theorem cuts_nil_iff : Cuts [] text ↔ text = [] := by
  constructor
  · rintro ⟨pieces, hpieces, rfl⟩
    rw [List.forall₂_nil_left_iff.1 hpieces]
    rfl
  · rintro rfl
    exact ⟨[], .nil, rfl⟩

/-- The first character of a pattern takes a piece in front. -/
theorem cuts_cons_iff : Cuts (d :: pattern) text ↔
    ∃ piece rest, Takes d piece ∧ Cuts pattern rest ∧ text = piece ++ rest := by
  constructor
  · rintro ⟨pieces, hpieces, rfl⟩
    obtain ⟨piece, pieces, hpiece, hrest, rfl⟩ := List.forall₂_cons_left_iff.1 hpieces
    exact ⟨piece, pieces.flatten, hpiece, ⟨pieces, hrest, rfl⟩, rfl⟩
  · rintro ⟨piece, _, hpiece, ⟨pieces, hpieces, rfl⟩, rfl⟩
    exact ⟨piece :: pieces, .cons hpiece hpieces, rfl⟩

theorem Matches.run (piece : List Char) (h : Matches pattern text) :
    Matches ('%' :: pattern) (piece ++ text) := by
  induction piece with
  | nil => exact .runEnd h
  | cons c piece ih => exact .runMore c ih

/-- **A pattern matches what can be cut for it.** -/
theorem matches_iff_cuts : Matches pattern text ↔ Cuts pattern text := by
  constructor
  · intro h
    induction h with
    | nil => exact cuts_nil_iff.2 rfl
    | runEnd _ ih => exact cuts_cons_iff.2 ⟨[], _, .run [], ih, rfl⟩
    | runMore c _ ih =>
      -- the piece of the run grows by the character in front of it
      obtain ⟨piece, rest, -, hrest, rfl⟩ := cuts_cons_iff.1 ih
      exact cuts_cons_iff.2 ⟨c :: piece, rest, .run _, hrest, rfl⟩
    | any c _ ih => exact cuts_cons_iff.2 ⟨[c], _, .any c, ih, rfl⟩
    | self c hrun hany _ ih => exact cuts_cons_iff.2 ⟨[c], _, .self c hrun hany, ih, rfl⟩
  · rintro ⟨pieces, hpieces, rfl⟩
    -- each character takes its piece, and the pieces behind are for the characters behind
    induction hpieces with
    | nil => exact .nil
    | cons hpiece _ ih =>
      rw [List.flatten_cons]
      cases hpiece with
      | run => exact ih.run _
      | any c => exact .any c ih
      | self _ hrun hany => exact .self _ hrun hany ih

end Pushdown.Wildcard
