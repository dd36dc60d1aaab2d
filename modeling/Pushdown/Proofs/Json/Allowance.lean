import Mathlib.Data.List.DropRight
import Pushdown.Proofs.Json.Numerals

/-!
# The allowance of a reader is never used up

Values are read by recursion on an allowance. It is there so that the recursion ends, and a text
that is read whole comes with more of it than can be spent: an array or an object costs two of the
allowance, one for itself and one for its first item, and it has used up a bracket by then; every
further item costs one and has used up a comma. So the failure that stands for a spent allowance is
never met, and any two allowances that cover a text give the same, `readValue_congr`.

This is why blanks in front of a value do not matter (`read_skipBlanks`), although a longer text
comes with a greater allowance.
-/

namespace Pushdown.Json

open Number

variable {allowance depth : Nat} {cs left : List Char} {v : Json}

/-! ### What is left of a text is an end of it -/

theorem skipBlanks_suffix (cs : List Char) : skipBlanks cs <:+ cs := List.dropWhile_suffix _

theorem suffix_of_skipBlanks {c : Char} (h : skipBlanks cs = c :: left) : left <:+ cs :=
  (List.suffix_cons c left).trans (h ▸ skipBlanks_suffix cs)

theorem suffix_of_readWord {word : String} {value : Json}
    (h : readWord word value cs = .ok (v, left)) : left <:+ cs := by
  unfold readWord at h
  split at h
  case h_1 heq =>
    obtain ⟨-, rfl⟩ := Prod.mk.inj (Except.ok.inj h)
    -- what is left stands behind the word
    rw [Text.dropLeading_eq_some_iff.1 heq]
    exact List.suffix_append _ _
  case h_2 => exact absurd h nofun

theorem suffix_of_readQuoted {reversed : List Char} {s : String}
    (h : readQuoted reversed cs = .ok (s, left)) : left <:+ cs := by
  fun_induction readQuoted reversed cs with
  | case2 reversed rest =>
    obtain ⟨-, rfl⟩ := Prod.mk.inj (Except.ok.inj h)
    exact List.suffix_cons _ _
  -- a pair of escapes, one escape by number, a short escape, a plain character
  | case6 reversed a b c d u _ _ _ a' b' c' d' rest v _ _ ih =>
    exact (ih h).trans
      (List.suffix_append ['\\', 'u', a, b, c, d, '\\', 'u', a', b', c', d'] _)
  | case9 reversed a b c d rest u _ _ _ ih =>
    exact (ih h).trans (List.suffix_append ['\\', 'u', a, b, c, d] _)
  | case10 reversed c rest _ _ _ ih => exact (ih h).trans (List.suffix_append ['\\', c] _)
  | case13 reversed c rest _ _ _ _ ih => exact (ih h).trans (List.suffix_cons c rest)
  -- everywhere else reading fails
  | case1 | case3 | case4 | case5 | case7 | case8 | case11 | case12 => exact absurd h nofun

theorem suffix_of_readKey {key : String} (h : readKey cs = .ok (key, left)) : left <:+ cs := by
  unfold readKey at h
  split at h
  case h_1 rest hcs => exact (suffix_of_readQuoted h).trans (suffix_of_skipBlanks hcs)
  case h_2 => exact absurd h nofun

theorem suffix_of_expectChar {c : Char} (h : expectChar c cs = .ok left) : left <:+ cs := by
  unfold expectChar at h
  split at h
  case h_1 => exact absurd h nofun
  case h_2 d rest hcs =>
    split at h
    case isTrue =>
      obtain rfl := Except.ok.inj h
      exact suffix_of_skipBlanks hcs
    case isFalse => exact absurd h nofun

mutual
theorem suffix_of_readValue : ∀ (allowance depth : Nat) (cs : List Char) (v : Json)
    (left : List Char), readValue allowance depth cs = .ok (v, left) → left <:+ cs
  | 0, depth, cs, v, left, h => by
    -- without an allowance nothing is read
    rw [readValue] at h
    cases h
  | allowance + 1, depth, cs, v, left, h => by
    rw [readValue] at h
    split at h
    case h_1 => cases h
    -- a text: what is left behind its quotes
    case h_2 rest hcs =>
      obtain ⟨⟨s, more⟩, hs, h⟩ := bind_eq_ok_iff.1 h
      obtain ⟨-, rfl⟩ := Prod.mk.inj (Except.ok.inj h)
      exact (suffix_of_readQuoted hs).trans (suffix_of_skipBlanks hcs)
    -- an array: without items it ends behind the brackets, else behind its items
    case h_3 rest hcs =>
      refine List.IsSuffix.trans ?_ (suffix_of_skipBlanks hcs)
      split at h
      -- too deep
      case h_1 => cases h
      case h_2 depth =>
        split at h
        case h_1 more hmore =>
          obtain ⟨-, rfl⟩ := Prod.mk.inj (Except.ok.inj h)
          exact suffix_of_skipBlanks hmore
        case h_2 =>
          obtain ⟨⟨items, more⟩, hitems, h⟩ := bind_eq_ok_iff.1 h
          obtain ⟨-, rfl⟩ := Prod.mk.inj (Except.ok.inj h)
          exact (suffix_of_readItems _ _ _ _ _ hitems).trans (skipBlanks_suffix rest)
    -- an object, in the same way
    case h_4 rest hcs =>
      refine List.IsSuffix.trans ?_ (suffix_of_skipBlanks hcs)
      split at h
      case h_1 => cases h
      case h_2 depth =>
        split at h
        case h_1 more hmore =>
          obtain ⟨-, rfl⟩ := Prod.mk.inj (Except.ok.inj h)
          exact suffix_of_skipBlanks hmore
        case h_2 =>
          obtain ⟨⟨entries, more⟩, hentries, h⟩ := bind_eq_ok_iff.1 h
          obtain ⟨-, rfl⟩ := Prod.mk.inj (Except.ok.inj h)
          exact (suffix_of_readEntries _ _ _ _ _ hentries).trans (skipBlanks_suffix rest)
    -- a word or a number, which begins where the blanks end
    case h_5 c rest _ _ _ hcs =>
      have hrest := suffix_of_skipBlanks hcs
      split at h
      · exact (suffix_of_readWord h).trans hrest
      split at h
      · exact (suffix_of_readWord h).trans hrest
      split at h
      · exact (suffix_of_readWord h).trans hrest
      split at h
      · exact (suffix_of_readNumber h).trans (hcs ▸ skipBlanks_suffix cs)
      · cases h
theorem suffix_of_readItems : ∀ (allowance depth : Nat) (cs : List Char) (items : List Json)
    (left : List Char), readItems allowance depth cs = .ok (items, left) → left <:+ cs
  | 0, depth, cs, items, left, h => by
    rw [readItems] at h
    cases h
  | allowance + 1, depth, cs, items, left, h => by
    rw [readItems] at h
    -- first comes an item, then a comma with more of them or the bracket
    obtain ⟨⟨item, rest⟩, hitem, h⟩ := bind_eq_ok_iff.1 h
    refine List.IsSuffix.trans ?_ (suffix_of_readValue _ _ _ _ _ hitem)
    dsimp only at h
    split at h
    case h_1 more hmore =>
      obtain ⟨⟨others, last⟩, hothers, h⟩ := bind_eq_ok_iff.1 h
      obtain ⟨-, rfl⟩ := Prod.mk.inj (Except.ok.inj h)
      exact (suffix_of_readItems _ _ _ _ _ hothers).trans (suffix_of_skipBlanks hmore)
    case h_2 more hmore =>
      obtain ⟨-, rfl⟩ := Prod.mk.inj (Except.ok.inj h)
      exact suffix_of_skipBlanks hmore
    case h_3 => cases h
theorem suffix_of_readEntries : ∀ (allowance depth : Nat) (cs : List Char)
    (entries : List (String × Json)) (left : List Char),
    readEntries allowance depth cs = .ok (entries, left) → left <:+ cs
  | 0, depth, cs, entries, left, h => by
    rw [readEntries] at h
    cases h
  | allowance + 1, depth, cs, entries, left, h => by
    rw [readEntries] at h
    -- key, colon and value each leave an end of what was before them
    obtain ⟨⟨key, rest⟩, hkey, h⟩ := bind_eq_ok_iff.1 h
    obtain ⟨rest', hcolon, h⟩ := bind_eq_ok_iff.1 h
    obtain ⟨⟨value, rest''⟩, hvalue, h⟩ := bind_eq_ok_iff.1 h
    refine List.IsSuffix.trans ?_ ((suffix_of_readValue _ _ _ _ _ hvalue).trans
      ((suffix_of_expectChar hcolon).trans (suffix_of_readKey hkey)))
    dsimp only at h
    split at h
    case h_1 more hmore =>
      obtain ⟨⟨others, last⟩, hothers, h⟩ := bind_eq_ok_iff.1 h
      obtain ⟨-, rfl⟩ := Prod.mk.inj (Except.ok.inj h)
      exact (suffix_of_readEntries _ _ _ _ _ hothers).trans (suffix_of_skipBlanks hmore)
    case h_2 more hmore =>
      obtain ⟨-, rfl⟩ := Prod.mk.inj (Except.ok.inj h)
      exact suffix_of_skipBlanks hmore
    case h_3 => cases h
end

/-! ### Allowances that cover a text -/

mutual
/-- **Two allowances that cover a text give the same.** -/
theorem readValue_congr : ∀ (allowance allowance' depth : Nat) (cs : List Char),
    2 * cs.length + 1 ≤ allowance → 2 * cs.length + 1 ≤ allowance' →
    readValue allowance depth cs = readValue allowance' depth cs
  | 0, _, depth, cs, h, _ => absurd h (by omega)
  | _, 0, depth, cs, _, h => absurd h (by omega)
  | n + 1, m + 1, depth, cs, hn, hm => by
    rw [readValue, readValue]
    generalize hcs : skipBlanks cs = opened
    split
    -- only what stands in brackets or braces is read on the allowance, and it is shorter by one
    case h_3 rest =>
      have hrest := (hcs ▸ skipBlanks_suffix cs).length_le
      have hitems := (skipBlanks_suffix rest).length_le
      rw [List.length_cons] at hrest
      split
      case h_1 => rfl
      case h_2 depth =>
        have hread := readItems_congr n m depth (skipBlanks rest) (by omega) (by omega)
        generalize skipBlanks rest = inside at hread ⊢
        split
        case h_1 => rfl
        case h_2 => rw [hread]
    case h_4 rest =>
      have hrest := (hcs ▸ skipBlanks_suffix cs).length_le
      have hentries := (skipBlanks_suffix rest).length_le
      rw [List.length_cons] at hrest
      split
      case h_1 => rfl
      case h_2 depth =>
        have hread := readEntries_congr n m depth (skipBlanks rest) (by omega) (by omega)
        generalize skipBlanks rest = inside at hread ⊢
        split
        case h_1 => rfl
        case h_2 => rw [hread]
    all_goals rfl
theorem readItems_congr : ∀ (allowance allowance' depth : Nat) (cs : List Char),
    2 * cs.length + 2 ≤ allowance → 2 * cs.length + 2 ≤ allowance' →
    readItems allowance depth cs = readItems allowance' depth cs
  | 0, _, depth, cs, h, _ => absurd h (by omega)
  | _, 0, depth, cs, _, h => absurd h (by omega)
  | n + 1, m + 1, depth, cs, hn, hm => by
    -- both read the same item, and what it leaves is no longer than the text
    rw [readItems, readItems, readValue_congr n m depth cs (by omega) (by omega)]
    refine bind_congr_of_ok ?_
    rintro ⟨item, rest⟩ hitem
    have hrest := (suffix_of_readValue _ _ _ _ _ hitem).length_le
    dsimp only
    generalize hmore : skipBlanks rest = more
    split
    -- a comma takes one character more, which pays for the step
    case h_1 more =>
      have hshorter := (hmore ▸ skipBlanks_suffix rest).length_le
      rw [List.length_cons] at hshorter
      rw [readItems_congr n m depth more (by omega) (by omega)]
    all_goals rfl
theorem readEntries_congr : ∀ (allowance allowance' depth : Nat) (cs : List Char),
    2 * cs.length + 2 ≤ allowance → 2 * cs.length + 2 ≤ allowance' →
    readEntries allowance depth cs = readEntries allowance' depth cs
  | 0, _, depth, cs, h, _ => absurd h (by omega)
  | _, 0, depth, cs, _, h => absurd h (by omega)
  | n + 1, m + 1, depth, cs, hn, hm => by
    rw [readEntries, readEntries]
    refine bind_congr_of_ok ?_
    rintro ⟨key, rest⟩ hkey
    -- what is in front of the value is shorter than the text already
    refine bind_congr_of_ok fun colon hcolon => ?_
    have hcolon := ((suffix_of_expectChar hcolon).trans (suffix_of_readKey hkey)).length_le
    rw [readValue_congr n m depth colon (by omega) (by omega)]
    refine bind_congr_of_ok ?_
    rintro ⟨value, rest'⟩ hvalue
    have hrest := (suffix_of_readValue _ _ _ _ _ hvalue).length_le
    dsimp only
    generalize hmore : skipBlanks rest' = more
    split
    case h_1 more =>
      have hshorter := (hmore ▸ skipBlanks_suffix rest').length_le
      rw [List.length_cons] at hshorter
      rw [readEntries_congr n m depth more (by omega) (by omega)]
    all_goals rfl
end

/-! ### Blanks in front of a value -/

theorem skipBlanks_skipBlanks (cs : List Char) : skipBlanks (skipBlanks cs) = skipBlanks cs :=
  List.dropWhile_idempotent isJsonBlank cs

theorem readValue_skipBlanks (allowance depth : Nat) (cs : List Char) :
    readValue allowance depth (skipBlanks cs) = readValue allowance depth cs := by
  cases allowance with
  | zero => rw [readValue, readValue]
  | succ n => rw [readValue, readValue, skipBlanks_skipBlanks]

/-- **Blanks in front of a value do not matter.** -/
theorem read_skipBlanks (cs : List Char) : read (skipBlanks cs) = read cs := by
  -- without the blanks the text is shorter, so the allowance for the longer one covers it too
  have hlength := (skipBlanks_suffix cs).length_le
  have hvalue : readValue (2 * (skipBlanks cs).length + 2) depthLimit (skipBlanks cs) =
      readValue (2 * cs.length + 2) depthLimit (skipBlanks cs) :=
    readValue_congr _ _ depthLimit (skipBlanks cs) (by omega) (by omega)
  unfold read readAsWritten
  rw [hvalue, readValue_skipBlanks]

end Pushdown.Json
