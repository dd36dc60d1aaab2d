import Pushdown.Proofs.Text.Patterns
import Pushdown.Text.Blank

/-!
# Patterns as regular expressions

A pattern with wildcards can be handed to a matcher of regular expressions: between the two ends of
the text, a `%` is written `.*`, a `_` is written `.`, and every other character is escaped if it
has a meaning of its own (`Wildcard.expression`). A flag in front has the dot take line feeds too.

Of the syntax of regular expressions this takes characters, escaped ones among them, the dot, the
star behind one of these, the two ends of a text, and the flag. `Regex.read?` reads this much of it
and refuses any other use of a character that has a meaning. `Regex.FoundIn` is the meaning: an
expression is found in a text if it leads from some place of it to another, so only the ends tie it
to the whole text.

The main statement is `exists_read?_expression`: what is written for a pattern is read as an
expression that is found in a text exactly if the pattern matches it. A character that is not
escaped, an end that is missing or the dot without its flag would each make it false.
-/

namespace Pushdown

/-! ### Syntax -/

namespace Regex

/-- **A character with a meaning of its own**, which stands for itself only if it is escaped. -/
def isMeta (c : Char) : Bool := "\\.+*?()|[]\x7b\x7d^$#&-~".toList.contains c

/-- A character so written that it stands for itself. -/
def escape (c : Char) : List Char := if isMeta c then ['\\', c] else [c]

/-- **A sign of an expression.** -/
inductive Sign where
  /-- A character that stands for itself. -/
  | literal (c : Char)
  /-- A dot. -/
  | dot
  /-- A star. -/
  | star
  /-- The sign for the start of the text. -/
  | caret
  /-- The sign for the end of the text. -/
  | dollar

/-- The sign that a character is by itself. -/
def sign? (c : Char) : Option Sign :=
  if c = '.' then some .dot
  else if c = '*' then some .star
  else if c = '^' then some .caret
  else if c = '$' then some .dollar
  else if isMeta c then none
  else some (.literal c)

/-- The signs of a text. A backslash has the next character stand for itself. -/
def signs? : List Char → Option (List Sign)
  | [] => some []
  | [c] => (sign? c).map fun s => [s]
  | c :: d :: cs =>
    if c = '\\' then if isMeta d then (signs? cs).map (.literal d :: ·) else none
    else (sign? c).bind fun s => (signs? (d :: cs)).map (s :: ·)

/-- **What one character of a text has to be.** -/
inductive CharSet where
  /-- Any, but for a line feed unless there is the flag for it. -/
  | any
  /-- This one. -/
  | only (c : Char)

/-- **An item of an expression.** -/
inductive Item where
  /-- One character. -/
  | one (set : CharSet)
  /-- A run of characters, which can be empty. -/
  | many (set : CharSet)
  /-- The start of the text. -/
  | start
  /-- The end of the text. -/
  | finish

/-- The items that signs form. A star belongs to the character before it. -/
def items? : List Sign → Option (List Item)
  | [] => some []
  | .caret :: signs => (items? signs).map (.start :: ·)
  | .dollar :: signs => (items? signs).map (.finish :: ·)
  | .star :: _ => none
  | .dot :: .star :: signs => (items? signs).map (.many .any :: ·)
  | .literal c :: .star :: signs => (items? signs).map (.many (.only c) :: ·)
  | .dot :: signs => (items? signs).map (.one .any :: ·)
  | .literal c :: signs => (items? signs).map (.one (.only c) :: ·)

end Regex

/-- **A regular expression**, as far as patterns take it. -/
structure Regex where
  /-- The dot takes line feeds too. -/
  dotAll : Bool
  /-- The items. -/
  items : List Regex.Item

namespace Regex

/-- **An expression, from its text.** -/
def read? (text : List Char) : Option Regex :=
  match Text.dropLeading "(?s)".toList text with
  | some rest => ((signs? rest).bind items?).map (⟨true, ·⟩)
  | none => ((signs? text).bind items?).map (⟨false, ·⟩)

/-! ### Meaning -/

/-- A set of characters has this one. -/
def CharSet.Has (dotAll : Bool) : CharSet → Char → Prop
  | .any, c => dotAll = true ∨ c ≠ '\n'
  | .only d, c => c = d

/-- **Items lead from a place of a text to another.** A place is given by what stands before it and
what is left from there; of the second place only what is left is told. -/
inductive Leads (dotAll : Bool) : List Item → (before rest after : List Char) → Prop where
  /-- Nothing leads nowhere else. -/
  | nil {before rest : List Char} : Leads dotAll [] before rest rest
  /-- At the start there is nothing before. -/
  | start {items : List Item} {rest after : List Char} :
    Leads dotAll items [] rest after → Leads dotAll (.start :: items) [] rest after
  /-- At the end there is nothing left. -/
  | finish {items : List Item} {before after : List Char} :
    Leads dotAll items before [] after → Leads dotAll (.finish :: items) before [] after
  /-- One character. -/
  | one {items : List Item} {before rest after : List Char} {set : CharSet} {c : Char} :
    set.Has dotAll c → Leads dotAll items (before ++ [c]) rest after →
      Leads dotAll (.one set :: items) before (c :: rest) after
  /-- A run can end anywhere. -/
  | manyEnd {items : List Item} {before rest after : List Char} {set : CharSet} :
    Leads dotAll items before rest after → Leads dotAll (.many set :: items) before rest after
  /-- A run can go on. -/
  | manyMore {items : List Item} {before rest after : List Char} {set : CharSet} {c : Char} :
    set.Has dotAll c → Leads dotAll (.many set :: items) (before ++ [c]) rest after →
      Leads dotAll (.many set :: items) before (c :: rest) after

/-- **An expression is found in a text**, at some place of it. -/
def FoundIn (r : Regex) (text : List Char) : Prop :=
  ∃ before rest after, before ++ rest = text ∧ Leads r.dotAll r.items before rest after

/-! ### Reading what is written -/

theorem signs?_cons {c : Char} (hc : c ≠ '\\') (cs : List Char) :
    signs? (c :: cs) = (sign? c).bind fun s => (signs? cs).map (s :: ·) := by
  cases cs with
  | nil => cases h : sign? c <;> simp [signs?, h]
  | cons d cs => rw [signs?, if_neg hc]

/-- **An escaped character is read as itself.** -/
theorem signs?_escape (c : Char) (cs : List Char) :
    signs? (escape c ++ cs) = (signs? cs).map (.literal c :: ·) := by
  unfold escape
  split
  case isTrue hmeta =>
    change (if '\\' = '\\' then if isMeta c then (signs? cs).map _ else none else _) = _
    rw [if_pos rfl, if_pos hmeta]
  case isFalse hmeta =>
    -- each of the other signs has a meaning, so the character is none of them
    have hne {d : Char} (hd : isMeta d = true) : c ≠ d := by
      rintro rfl
      exact hmeta hd
    have hsign : sign? c = some (.literal c) := by
      unfold sign?
      rw [if_neg (hne (by decide)), if_neg (hne (by decide)), if_neg (hne (by decide)),
        if_neg (hne (by decide)), if_neg hmeta]
    rw [List.singleton_append, signs?_cons (hne (by decide)), hsign, Option.bind_some]

end Regex

namespace Wildcard

open Regex

variable {pattern text : List Char}

/-- A character of a pattern, as part of an expression. -/
def written (c : Char) : List Char :=
  if c = '%' then ['.', '*'] else if c = '_' then ['.'] else escape c

/-- **The regular expression of a pattern.** -/
def expression (pattern : List Char) : List Char :=
  "(?s)^".toList ++ pattern.flatMap written ++ ['$']

/-- The signs that a character of a pattern is written by. -/
def writtenSigns (c : Char) : List Sign :=
  if c = '%' then [.dot, .star] else if c = '_' then [.dot] else [.literal c]

/-- What a character of a pattern means in an expression. -/
def item (c : Char) : Item :=
  if c = '%' then .many .any else if c = '_' then .one .any else .one (.only c)

theorem signs?_written (c : Char) (cs : List Char) :
    signs? (written c ++ cs) = (signs? cs).map (writtenSigns c ++ ·) := by
  -- one case for each way in which a character is written
  unfold written writtenSigns
  split
  case isTrue =>
    change signs? ('.' :: '*' :: cs) = _
    rw [signs?_cons (by decide), signs?_cons (by decide)]
    cases signs? cs <;> rfl
  case isFalse =>
    split
    case isTrue =>
      change signs? ('.' :: cs) = _
      rw [signs?_cons (by decide)]
      rfl
    case isFalse => exact signs?_escape c cs

theorem signs?_flatMap_written (pattern : List Char) :
    signs? (pattern.flatMap written ++ ['$']) =
      some (pattern.flatMap writtenSigns ++ [.dollar]) := by
  induction pattern with
  | nil => rfl
  | cons c pattern ih =>
    rw [List.flatMap_cons, List.append_assoc, signs?_written, ih, List.flatMap_cons,
      List.append_assoc]
    rfl

/-- A star stands behind the dot of a run and nowhere else. -/
theorem items?_writtenSigns (c : Char) {signs : List Sign} (hsigns : signs.head? ≠ some .star) :
    items? (writtenSigns c ++ signs) = (items? signs).map (item c :: ·) := by
  -- without a star behind it, a dot or a character is an item of its own
  have hone (c : Char) : items? (.literal c :: signs) = (items? signs).map (.one (.only c) :: ·) ∧
      items? (.dot :: signs) = (items? signs).map (.one .any :: ·) := by
    match signs with
    | [] | .literal _ :: _ | .dot :: _ | .caret :: _ | .dollar :: _ => exact ⟨rfl, rfl⟩
    | .star :: _ => exact absurd rfl hsigns
  unfold writtenSigns item
  split
  case isTrue => rfl
  case isFalse =>
    split
    case isTrue => exact (hone c).2
    case isFalse => exact (hone c).1

theorem head?_flatMap_writtenSigns (pattern : List Char) :
    (pattern.flatMap writtenSigns ++ [Sign.dollar]).head? ≠ some .star := by
  cases pattern with
  -- the sign at the end is no star, and no character is written with one in front
  | nil => exact nofun
  | cons c pattern =>
    rw [List.flatMap_cons, List.append_assoc]
    unfold writtenSigns
    split
    case isTrue => exact nofun
    case isFalse =>
      split
      case isTrue => exact nofun
      case isFalse => exact nofun

theorem items?_flatMap_writtenSigns (pattern : List Char) :
    items? (pattern.flatMap writtenSigns ++ [.dollar]) = some (pattern.map item ++ [.finish]) := by
  induction pattern with
  | nil => rfl
  | cons c pattern ih =>
    rw [List.flatMap_cons, List.append_assoc,
      items?_writtenSigns c (head?_flatMap_writtenSigns pattern), ih]
    rfl

/-- **What is written for a pattern is read as it is meant.** -/
theorem read?_expression (pattern : List Char) :
    read? (expression pattern) = some ⟨true, .start :: (pattern.map item ++ [.finish])⟩ := by
  -- the flag is read first, then the signs, and then what they form
  have hflag : Text.dropLeading "(?s)".toList (expression pattern) =
      some ('^' :: (pattern.flatMap written ++ ['$'])) := rfl
  have hsigns : signs? ('^' :: (pattern.flatMap written ++ ['$'])) =
      some (.caret :: (pattern.flatMap writtenSigns ++ [.dollar])) := by
    rw [signs?_cons (by decide), signs?_flatMap_written]
    rfl
  have hitems : items? (.caret :: (pattern.flatMap writtenSigns ++ [.dollar])) =
      some (.start :: (pattern.map item ++ [.finish])) := by
    rw [items?, items?_flatMap_writtenSigns]
    rfl
  unfold read?
  rw [hflag]
  dsimp only
  rw [hsigns, Option.bind_some, hitems]
  rfl

/-! ### Matching -/

theorem leads_finish_iff {dotAll : Bool} {before after : List Char} :
    Leads dotAll [.finish] before text after ↔ text = [] ∧ after = [] := by
  constructor
  · intro h
    -- behind the end there are no more items
    cases h with
    | finish h =>
      cases h with
      | nil => exact ⟨rfl, rfl⟩
  · rintro ⟨rfl, rfl⟩
    exact .finish .nil

theorem leads_one_iff {dotAll : Bool} {set : CharSet} {items : List Item}
    {before after : List Char} : Leads dotAll (.one set :: items) before text after ↔
      ∃ c rest, set.Has dotAll c ∧ Leads dotAll items (before ++ [c]) rest after ∧
        text = c :: rest := by
  constructor
  · intro h
    cases h with
    | one hc h => exact ⟨_, _, hc, h, rfl⟩
  · rintro ⟨c, rest, hc, h, rfl⟩
    exact .one hc h

/-- **A run of any characters takes any piece**, with line feeds if there is the flag for them. -/
theorem leads_many_any_iff {items : List Item} {before after : List Char} :
    Leads true (.many .any :: items) before text after ↔
      ∃ piece rest, Leads true items (before ++ piece) rest after ∧ text = piece ++ rest := by
  constructor
  · intro h
    -- the items are generalized, since the run stays the same while it goes on
    generalize hall : Item.many CharSet.any :: items = all at h
    induction h with
    | nil | start _ _ | finish _ _ | one _ _ _ => exact absurd hall nofun
    | manyEnd h =>
      obtain ⟨-, rfl⟩ := List.cons.inj hall
      exact ⟨[], _, by rwa [List.append_nil], rfl⟩
    | manyMore _ _ ih =>
      obtain ⟨piece, rest, h, rfl⟩ := ih hall
      exact ⟨_ :: piece, rest, by rwa [List.append_cons], rfl⟩
  · rintro ⟨piece, rest, h, rfl⟩
    -- the run takes the piece one character after another
    induction piece generalizing before with
    | nil => exact .manyEnd (by rwa [List.append_nil] at h)
    | cons c piece ih => exact .manyMore (.inl rfl) (ih (by rwa [List.append_cons] at h))

/-- **A character of a pattern leads over what it can take.** -/
theorem leads_item_iff (c : Char) {items : List Item} {before after : List Char} :
    Leads true (item c :: items) before text after ↔ ∃ piece rest, Takes c piece ∧
      Leads true items (before ++ piece) rest after ∧ text = piece ++ rest := by
  -- what the item is decides on what can be taken, and the two agree in each case
  unfold item
  split
  case isTrue hrun =>
    subst hrun
    rw [leads_many_any_iff]
    exact ⟨fun ⟨piece, rest, h⟩ => ⟨piece, rest, .run piece, h⟩,
      fun ⟨piece, rest, _, h⟩ => ⟨piece, rest, h⟩⟩
  case isFalse hrun =>
    split
    case isTrue hany =>
      subst hany
      rw [leads_one_iff]
      constructor
      · rintro ⟨d, rest, -, h, rfl⟩
        exact ⟨[d], rest, .any d, h, rfl⟩
      · rintro ⟨_, rest, htakes, h, rfl⟩
        cases htakes with
        | any d => exact ⟨d, rest, .inl rfl, h, rfl⟩
        | self _ _ hnot => exact absurd rfl hnot
    case isFalse hany =>
      rw [leads_one_iff]
      constructor
      · rintro ⟨_, rest, rfl, h, rfl⟩
        exact ⟨[_], rest, .self _ hrun hany, h, rfl⟩
      · rintro ⟨_, rest, htakes, h, rfl⟩
        cases htakes with
        | run _ => exact absurd rfl hrun
        | any _ => exact absurd rfl hany
        | self _ _ _ => exact ⟨c, rest, rfl, h, rfl⟩

/-- **The items of a pattern lead to the end of what can be cut for it**, and nowhere else. -/
theorem leads_map_item_iff {before after : List Char} :
    Leads true (pattern.map item ++ [.finish]) before text after ↔
      Cuts pattern text ∧ after = [] := by
  induction pattern generalizing before text with
  -- nothing is left to be cut, and the end says so
  | nil => rw [List.map_nil, List.nil_append, leads_finish_iff, cuts_nil_iff]
  | cons c pattern ih =>
    rw [List.map_cons, List.cons_append, leads_item_iff, cuts_cons_iff]
    simp only [ih]
    constructor
    · rintro ⟨piece, rest, hpiece, ⟨hrest, hafter⟩, htext⟩
      exact ⟨⟨piece, rest, hpiece, hrest, htext⟩, hafter⟩
    · rintro ⟨⟨piece, rest, hpiece, hrest, htext⟩, hafter⟩
      exact ⟨piece, rest, hpiece, ⟨hrest, hafter⟩, htext⟩

/-- **A pattern and its regular expression.** What is written for a pattern can be read, and it is
found in a text exactly if the text can be cut for the pattern. -/
theorem exists_read?_expression (pattern : List Char) :
    ∃ r, read? (expression pattern) = some r ∧ ∀ text, r.FoundIn text ↔ Cuts pattern text := by
  refine ⟨_, read?_expression pattern, fun text => ⟨?_, fun h => ?_⟩⟩
  · -- the sign for the start allows no place but the first
    rintro ⟨before, rest, after, rfl, h⟩
    cases h with
    | start h => exact (leads_map_item_iff.1 h).1
  · exact ⟨[], text, [], rfl, .start (leads_map_item_iff.2 ⟨h, rfl⟩)⟩

end Wildcard

end Pushdown
