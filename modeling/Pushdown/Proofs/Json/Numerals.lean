import Mathlib.Data.List.TakeWhile
import Pushdown.Json.Reader
import Pushdown.Json.Writer
import Pushdown.Proofs.Number.Digits
import Pushdown.Proofs.Outcome

/-!
# Numbers are read off the front of a text

A number has no end of its own: it ends where no character of a number follows. So what is read off
the front of a text depends on what is behind it, but only on whether this begins with such a
character. If it does not (`EndsNumeral`), the number is the same whatever comes behind, and all of
that is left (`readNumber_append`).

It remains to know of a number's own text that it is read as the number (`readNumber_text`). For an
integer of sixty-four bits this is a matter of its digits. A number with a fraction is read in two
roundings, one for the digits and one for the power of ten, so its shortest text may be read as a
neighbour. `JsonNumber.Storable` asks of it what it has to: that its text by itself is read as the
number.
-/

namespace Pushdown

open Number

/-! ### Specification -/

/-- **A number that is held as it is written**: an integer of sixty-four bits, with sign or without,
or a number with a fraction whose text is read as this number. -/
def JsonNumber.Storable : JsonNumber → Prop
  | .int i => -9223372036854775808 ≤ i ∧ i < 18446744073709551616
  | .float x => Json.read? (JsonNumber.float x).text = some (.number (.float x))

/-- A character of numbers. -/
def isNumeralChar (c : Char) : Bool :=
  c.isDigit || c == '.' || c == 'e' || c == 'E' || c == '+' || c == '-'

/-- Nothing, or a character that is not one of numbers and more. -/
def EndsNumeral (rest : List Char) : Prop := ∀ c ∈ rest.head?, isNumeralChar c = false

theorem endsNumeral_nil : EndsNumeral [] := by
  rintro c ⟨⟩

theorem endsNumeral_cons {c : Char} (h : isNumeralChar c = false) (rest : List Char) :
    EndsNumeral (c :: rest) := by
  rintro _ ⟨⟩
  exact h

/-! ### Characters of numbers -/

theorem isNumeralChar_of_isDigit {c : Char} (h : c.isDigit = true) : isNumeralChar c = true := by
  simp [isNumeralChar, h]

/-- What is behind a number does not begin with a character of numbers. -/
theorem EndsNumeral.ne {c d : Char} {rest : List Char} (h : EndsNumeral (d :: rest))
    (hc : isNumeralChar c = true) : d ≠ c := by
  rintro rfl
  exact absurd ((h d rfl).symm.trans hc) nofun

theorem EndsNumeral.not_isDigit {d : Char} {rest : List Char} (h : EndsNumeral (d :: rest)) :
    d.isDigit = false := by
  cases hd : d.isDigit with
  | false => rfl
  | true => exact absurd rfl (h.ne (isNumeralChar_of_isDigit hd))

theorem all_digitsOf (n : Nat) : (digitsOf n).all isNumeralChar = true :=
  List.all_eq_true.2 fun _ h => isNumeralChar_of_isDigit (isDigit_of_mem_digitsOf h)

theorem all_intText (i : Int) : (intText i).toList.all isNumeralChar = true := by
  unfold intText
  -- the sign is one of those characters, and the rest are digits
  split
  case isTrue =>
    rw [String.toList_ofList, List.all_cons, all_digitsOf]
    rfl
  case isFalse =>
    rw [String.toList_ofList]
    exact all_digitsOf _

/-- Every character of a decimal that is laid out is one of numbers. -/
theorem all_write (d : Decimal) :
    (FloatLayout.standard.write d).toList.all isNumeralChar = true := by
  -- every layout is put together from digits, zeros, a point and the marks of an exponent
  have hdigits := all_digitsOf d.digits
  have hzeros (n : Nat) : (List.replicate n '0').all isNumeralChar = true :=
    List.all_eq_true.2 fun c hc => List.eq_of_mem_replicate hc ▸ rfl
  have htake (n : Nat) : ((digitsOf d.digits).take n).all isNumeralChar = true :=
    List.all_eq_true.2 fun c hc => List.all_eq_true.1 hdigits c (List.mem_of_mem_take hc)
  have hdrop (n : Nat) : ((digitsOf d.digits).drop n).all isNumeralChar = true :=
    List.all_eq_true.2 fun c hc => List.all_eq_true.1 hdigits c (List.mem_of_mem_drop hc)
  have hpoint : isNumeralChar '.' = true := by decide
  unfold FloatLayout.write
  dsimp only
  split
  case isTrue =>
    -- without an exponent: zeros behind, a point within, or zeros in front
    split
    -- a whole number, which this layout ends in a point and a zero
    case isTrue =>
      have hfraction : FloatLayout.standard.wholeFraction.toList.all isNumeralChar = true := by
        decide
      rw [String.toList_append, String.toList_ofList, List.all_append, List.all_append, hdigits,
        hzeros, hfraction]
      rfl
    case isFalse =>
      split
      -- the point falls among the digits, so these are cut in two
      case isTrue =>
        rw [String.toList_ofList, List.all_append, List.all_cons, htake, hpoint, hdrop]
        rfl
      -- a fraction of zero: the point comes before zeros and all the digits
      case isFalse =>
        rw [String.toList_ofList, List.all_append, List.all_append, hzeros, hdigits]
        decide
  case isFalse =>
    -- with an exponent: the digits, the mark with its sign, and digits again
    rw [String.toList_append, String.toList_append, String.toList_ofList, List.all_append,
      List.all_append, List.all_append, all_intText, Bool.and_true, Bool.and_eq_true,
      Bool.and_eq_true]
    refine ⟨⟨?_, by decide⟩, ?_⟩
    · -- the leading digit has a point behind it only where more digits come
      cases hcs : digitsOf d.digits with
      | nil => rfl
      | cons c cs =>
        rw [hcs, List.all_cons, Bool.and_eq_true] at hdigits
        cases cs with
        | nil => exact List.all_eq_true.2 fun _ h => List.mem_singleton.1 h ▸ hdigits.1
        | cons c' cs =>
          show ((c :: '.' :: c' :: cs).all isNumeralChar) = true
          rw [List.all_cons, List.all_cons, hdigits.1, hpoint, hdigits.2]
          rfl
    · split
      case isTrue => decide
      case isFalse => rfl

/-- **Every character of the text of a number** is one of numbers. -/
theorem all_text (x : Double) : x.text.toList.all isNumeralChar = true := by
  unfold Double.text
  rw [String.toList_append, List.all_append, Bool.and_eq_true]
  constructor
  · split
    case isTrue => decide
    case isFalse => rfl
  · split
    case isTrue => decide
    case isFalse => exact all_write _

/-! ### Reading -/

namespace Json

variable {rest cs : List Char}

/-- What was read, with more behind it. -/
def continued {α : Type} (rest : List Char) :
    Except ReadError (α × List Char) → Except ReadError (α × List Char) :=
  Except.map fun (a, left) => (a, left ++ rest)

/-- A step that does not depend on what is behind either. -/
theorem continued_bind {α β : Type} {x : Except ReadError (α × List Char)}
    {f : α × List Char → Except ReadError (β × List Char)}
    (hf : ∀ a left, f (a, left ++ rest) = continued rest (f (a, left))) :
    (continued rest x >>= f) = continued rest (x >>= f) := by
  cases x with
  | error e => rfl
  | ok a => exact hf a.1 a.2

/-- Digits end where the number does. -/
theorem digits_append (hrest : EndsNumeral rest) (cs : List Char) :
    (cs ++ rest).takeWhile Char.isDigit = cs.takeWhile Char.isDigit ∧
      (cs ++ rest).dropWhile Char.isDigit = cs.dropWhile Char.isDigit ++ rest := by
  induction cs with
  -- no digit is left, so the digits end at `rest`, which does not go on with one
  | nil =>
    cases rest with
    | nil => exact ⟨rfl, rfl⟩
    | cons d rest =>
      have hd : ¬ d.isDigit = true := by
        rw [hrest.not_isDigit]
        decide
      exact ⟨List.takeWhile_cons_of_neg hd, List.dropWhile_cons_of_neg hd⟩
  | cons c cs ih =>
    constructor
    · rw [List.cons_append, List.takeWhile_cons, List.takeWhile_cons, ih.1]
    · rw [List.cons_append, List.dropWhile_cons, List.dropWhile_cons, ih.2]
      split
      case isTrue => rfl
      case isFalse => rfl

theorem readFraction_of_ne {c : Char} (hc : c ≠ '.') (cs : List Char) :
    readFraction (c :: cs) = .ok ([], c :: cs) := by
  unfold readFraction
  split
  case h_1 heq => exact absurd (List.cons.inj heq).1 hc
  case h_2 => rfl

theorem readFraction_append (hrest : EndsNumeral rest) (cs : List Char) :
    readFraction (cs ++ rest) = continued rest (readFraction cs) := by
  cases cs with
  -- here alone the first character comes from `rest`, and it is no point
  | nil =>
    cases rest with
    | nil => rfl
    | cons d rest => exact readFraction_of_ne (hrest.ne rfl) rest
  | cons c cs =>
    -- a point: the digits behind it are the same with `rest` and without
    by_cases hc : c = '.'
    · subst hc
      obtain ⟨htake, hdrop⟩ := digits_append hrest cs
      simp only [List.cons_append, readFraction, htake, hdrop]
      cases cs.takeWhile Char.isDigit <;> rfl
    · rw [List.cons_append, readFraction_of_ne hc, readFraction_of_ne hc]
      rfl

theorem readExponentDigits_append (hrest : EndsNumeral rest) (negative : Bool) (cs : List Char) :
    readExponentDigits negative (cs ++ rest) = continued rest (readExponentDigits negative cs) := by
  obtain ⟨htake, hdrop⟩ := digits_append hrest cs
  unfold readExponentDigits
  rw [htake, hdrop]
  cases cs.takeWhile Char.isDigit <;> rfl

theorem readExponent_of_ne {c : Char} (hc : ¬ (c = 'e' ∨ c = 'E')) (cs : List Char) :
    readExponent (c :: cs) = .ok (none, c :: cs) := by
  unfold readExponent
  exact if_neg hc

/-- An exponent without a sign. -/
theorem readExponent_of_unsigned {c : Char} {cs : List Char} (hc : c = 'e' ∨ c = 'E')
    (hcs : ∀ d ∈ cs.head?, d ≠ '-' ∧ d ≠ '+') :
    readExponent (c :: cs) = readExponentDigits false cs := by
  rw [readExponent, if_pos hc]
  · rintro more rfl
    exact (hcs '-' rfl).1 rfl
  · rintro more rfl
    exact (hcs '+' rfl).2 rfl

theorem readExponent_append (hrest : EndsNumeral rest) (cs : List Char) :
    readExponent (cs ++ rest) = continued rest (readExponent cs) := by
  -- `rest` begins with no sign, so an exponent that ends here is not given one by it
  have hends : ∀ d ∈ rest.head?, d ≠ '-' ∧ d ≠ '+' := by
    cases rest with
    | nil => rintro d ⟨⟩
    | cons d rest =>
      rintro _ ⟨⟩
      exact ⟨hrest.ne rfl, hrest.ne rfl⟩
  cases cs with
  | nil =>
    cases rest with
    | nil => rfl
    | cons d rest =>
      refine readExponent_of_ne ?_ rest
      rintro (h | h)
      · exact hrest.ne rfl h
      · exact hrest.ne rfl h
  | cons c cs =>
    by_cases hc : c = 'e' ∨ c = 'E'
    · cases cs with
      -- the mark is the last character: no digits follow it, not even from `rest`
      | nil =>
        show readExponent (c :: rest) = _
        rw [readExponent_of_unsigned hc hends, readExponent_of_unsigned hc (by rintro d ⟨⟩)]
        exact readExponentDigits_append hrest false []
      | cons d cs =>
        -- a minus, a plus, or digits at once
        by_cases hminus : d = '-'
        · subst hminus
          simp only [List.cons_append, readExponent, if_pos hc]
          exact readExponentDigits_append hrest true cs
        · by_cases hplus : d = '+'
          · subst hplus
            simp only [List.cons_append, readExponent, if_pos hc]
            exact readExponentDigits_append hrest false cs
          · have hsign (more : List Char) : ∀ e ∈ (d :: more).head?, e ≠ '-' ∧ e ≠ '+' := by
              rintro _ ⟨⟩
              exact ⟨hminus, hplus⟩
            rw [List.cons_append, List.cons_append, readExponent_of_unsigned hc (hsign _),
              readExponent_of_unsigned hc (hsign _)]
            exact readExponentDigits_append hrest false (d :: cs)
    · rw [List.cons_append, readExponent_of_ne hc, readExponent_of_ne hc]
      rfl

/-- The fraction and the exponent of a number, behind its sign and its whole part. -/
def readParts (negative : Bool) (whole cs : List Char) :
    Except ReadError (Numeral × List Char) := do
  let (fraction, cs) ← readFraction cs
  let (exponent, cs) ← readExponent cs
  return (⟨negative, whole, fraction, exponent⟩, cs)

theorem readParts_append (hrest : EndsNumeral rest) (negative : Bool) (whole cs : List Char) :
    readParts negative whole (cs ++ rest) = continued rest (readParts negative whole cs) := by
  unfold readParts
  rw [readFraction_append hrest]
  refine continued_bind fun fraction left => ?_
  dsimp only
  -- the second step starts with more behind it, as the first one left it
  rw [readExponent_append hrest]
  exact continued_bind fun exponent left => rfl

/-- **What is read of a number does not depend on what is behind it.** -/
theorem readNumeral_append (hrest : EndsNumeral rest) (cs : List Char) :
    readNumeral (cs ++ rest) = continued rest (readNumeral cs) := by
  cases cs with
  -- nothing to read before `rest`: no sign and no digit comes from there
  | nil =>
    cases rest with
    | nil => rfl
    | cons d rest =>
      have hd := hrest.not_isDigit
      have hminus : d ≠ '-' := hrest.ne rfl
      simp [readNumeral, hminus, hd, continued, Except.map]
  | cons c cs =>
    -- the sign is read first, so the whole part begins after it or at once
    by_cases hc : c = '-'
    · subst hc
      obtain ⟨htake, hdrop⟩ := digits_append hrest cs
      simp only [List.cons_append, readNumeral, htake, hdrop]
      split
      · rfl
      · rfl
      · exact readParts_append hrest true _ _
    · -- no sign, neither with what is behind the number nor without
      obtain ⟨htake, hdrop⟩ := digits_append hrest (c :: cs)
      rw [List.cons_append] at htake hdrop ⊢
      rw [readNumeral, readNumeral]
      · dsimp only
        rw [htake, hdrop]
        split
        · rfl
        · rfl
        · exact readParts_append hrest false _ _
      all_goals
        rintro more heq
        exact hc (List.cons.inj heq).1

theorem readNumber_append (hrest : EndsNumeral rest) (cs : List Char) :
    readNumber (cs ++ rest) = continued rest (readNumber cs) := by
  unfold readNumber
  rw [readNumeral_append hrest]
  refine continued_bind fun numeral left => ?_
  dsimp only
  -- the value is one of the numeral, and says nothing about what is left
  cases numeral.value <;> rfl

/-! ### The text of a number -/

/-- Digits without a leading zero are a whole number, without a sign or behind one. -/
theorem readNumeral_of_digits {digits : List Char} (hdigits : ∀ c ∈ digits, c.isDigit = true)
    (hne : digits ≠ []) (hzero : ∀ c cs, digits ≠ '0' :: c :: cs) :
    readNumeral digits = .ok (⟨false, digits, [], none⟩, []) ∧
      readNumeral ('-' :: digits) = .ok (⟨true, digits, [], none⟩, []) := by
  -- all of the text is the whole part
  have htake : digits.takeWhile Char.isDigit = digits := List.takeWhile_eq_self_iff.2 hdigits
  have hdrop : digits.dropWhile Char.isDigit = [] := List.dropWhile_eq_nil_iff.2 hdigits
  constructor
  · -- the pattern of a sign does not match: a digit is none
    rw [readNumeral]
    · dsimp only
      rw [htake, hdrop]
      split
      · exact absurd rfl hne
      · exact absurd rfl (hzero _ _)
      · rfl
    · rintro more rfl
      exact absurd (hdigits '-' List.mem_cons_self) (by decide)
  · rw [readNumeral]
    dsimp only
    rw [htake, hdrop]
    split
    · exact absurd rfl hne
    · exact absurd rfl (hzero _ _)
    · rfl

theorem value_of_unsigned {n : Nat} (h : n < 18446744073709551616) :
    Numeral.value ⟨false, digitsOf n, [], none⟩ = .ok (.number (.int n)) := by
  have hfits : fitsNat64 n = true := decide_eq_true h
  simp only [Numeral.value, ofDigits_digitsOf, hfits]
  rfl

theorem value_of_signed {n : Nat} (hpos : 0 < n) (h : n ≤ 9223372036854775808) :
    Numeral.value ⟨true, digitsOf n, [], none⟩ = .ok (.number (.int (-n))) := by
  -- the least integer has no positive counterpart, so what has to fit is `-n`
  have hfits : fitsInt64 (-n) = true := by
    rw [fitsInt64, Bool.and_eq_true, decide_eq_true_iff, decide_eq_true_iff]
    omega
  simp only [Numeral.value, ofDigits_digitsOf, hfits, decide_eq_true hpos.ne']
  rfl

/-- **An integer of sixty-four bits is read off its digits.** -/
theorem readNumber_int {i : Int} (h : (JsonNumber.int i).Storable) :
    readNumber (JsonNumber.int i).text.toList = .ok (.number (.int i), []) := by
  obtain ⟨hunsigned, hsigned⟩ := readNumeral_of_digits
    (fun c hc => isDigit_of_mem_digitsOf hc) (digitsOf_ne_nil i.natAbs)
    (digitsOf_ne_zero_cons i.natAbs)
  obtain ⟨hleast, hgreatest⟩ := h
  unfold readNumber JsonNumber.text intText
  dsimp only
  -- the text of a negative integer is a minus before the digits of its size
  split
  case isTrue hneg =>
    have hvalue := value_of_signed (n := i.natAbs) (by omega) (by omega)
    rw [show -(i.natAbs : Int) = i by omega] at hvalue
    rw [String.toList_ofList, hsigned]
    dsimp only [bind, Except.bind]
    rw [hvalue]
    rfl
  case isFalse hneg =>
    have hvalue := value_of_unsigned (n := i.natAbs) (by omega)
    rw [show (i.natAbs : Int) = i by omega] at hvalue
    rw [String.toList_ofList, hunsigned]
    dsimp only [bind, Except.bind]
    rw [hvalue]
    rfl

/-! ### What is left behind a number -/

variable {left : List Char}

theorem suffix_of_readFraction {fraction : List Char}
    (h : readFraction cs = .ok (fraction, left)) : left <:+ cs := by
  unfold readFraction at h
  -- every step drops characters from the front: a suffix of a suffix is one
  split at h
  case h_1 more =>
    have hmore : more.dropWhile Char.isDigit <:+ '.' :: more :=
      (List.dropWhile_suffix _).trans (List.suffix_cons _ _)
    split at h
    · exact absurd h nofun
    · exact (Prod.mk.inj (Except.ok.inj h)).2 ▸ hmore
  case h_2 => exact (Prod.mk.inj (Except.ok.inj h)).2 ▸ List.suffix_refl cs

theorem suffix_of_readExponentDigits {negative : Bool} {exponent : Option (Bool × List Char)}
    (h : readExponentDigits negative cs = .ok (exponent, left)) : left <:+ cs := by
  unfold readExponentDigits at h
  split at h
  · exact absurd h nofun
  · exact (Prod.mk.inj (Except.ok.inj h)).2 ▸ List.dropWhile_suffix _

theorem suffix_of_readExponent {exponent : Option (Bool × List Char)}
    (h : readExponent cs = .ok (exponent, left)) : left <:+ cs := by
  unfold readExponent at h
  split at h
  case h_1 => exact (Prod.mk.inj (Except.ok.inj h)).2 ▸ List.suffix_refl []
  case h_2 c more =>
    split at h
    case isTrue =>
      refine List.IsSuffix.trans ?_ (List.suffix_cons c more)
      -- each sign takes one character more, before the digits
      split at h
      · exact (suffix_of_readExponentDigits h).trans (List.suffix_cons _ _)
      · exact (suffix_of_readExponentDigits h).trans (List.suffix_cons _ _)
      · exact suffix_of_readExponentDigits h
    case isFalse => exact (Prod.mk.inj (Except.ok.inj h)).2 ▸ List.suffix_refl _

theorem suffix_of_readParts {negative : Bool} {whole : List Char} {numeral : Numeral}
    (h : readParts negative whole cs = .ok (numeral, left)) : left <:+ cs := by
  obtain ⟨⟨fraction, more⟩, hfraction, h⟩ := bind_eq_ok_iff.1 h
  obtain ⟨⟨exponent, more'⟩, hexponent, h⟩ := bind_eq_ok_iff.1 h
  obtain ⟨-, rfl⟩ := Prod.mk.inj (Except.ok.inj h)
  exact (suffix_of_readExponent hexponent).trans (suffix_of_readFraction hfraction)

theorem suffix_of_readNumeral {numeral : Numeral}
    (h : readNumeral cs = .ok (numeral, left)) : left <:+ cs := by
  -- with a sign and without, the digits of the whole part go before the rest
  have hsigned (negative : Bool) (more : List Char) (hmore : more <:+ cs)
      (h : readParts negative (more.takeWhile Char.isDigit) (more.dropWhile Char.isDigit) =
        .ok (numeral, left)) : left <:+ cs :=
    ((suffix_of_readParts h).trans (List.dropWhile_suffix _)).trans hmore
  unfold readNumeral at h
  split at h
  rename_i negative more heq
  have hmore : more <:+ cs := by
    split at heq
    · exact (Prod.mk.inj heq).2 ▸ List.suffix_cons _ _
    · exact (Prod.mk.inj heq).2 ▸ List.suffix_refl _
  split at h
  · exact absurd h nofun
  · exact absurd h nofun
  · exact hsigned negative more hmore h

theorem suffix_of_readNumber {v : Json} (h : readNumber cs = .ok (v, left)) : left <:+ cs := by
  obtain ⟨⟨numeral, more⟩, hnumeral, h⟩ := bind_eq_ok_iff.1 h
  obtain ⟨value, -, h⟩ := bind_eq_ok_iff.1 h
  obtain ⟨-, rfl⟩ := Prod.mk.inj (Except.ok.inj h)
  exact suffix_of_readNumeral hnumeral

/-! ### Values that are numbers -/

variable {c : Char} {allowance depth : Nat}

theorem ne_of_isNumeralChar {d : Char} (hc : isNumeralChar c = true)
    (hd : isNumeralChar d = false) : c ≠ d := by
  rintro rfl
  exact absurd (hc.symm.trans hd) nofun

theorem skipBlanks_of_not {c : Char} (hc : isJsonBlank c = false) (cs : List Char) :
    skipBlanks (c :: cs) = c :: cs :=
  List.dropWhile_cons_of_neg (by rw [hc]; decide)

theorem not_isJsonBlank_of_isNumeralChar (hc : isNumeralChar c = true) :
    isJsonBlank c = false := by
  have hne (d : Char) (hd : isNumeralChar d = false) : c ≠ d := ne_of_isNumeralChar hc hd
  simp [isJsonBlank, hne ' ' rfl, hne '\n' rfl, hne '\r' rfl, hne '\t' rfl]

/-- A character of numbers opens a number or nothing. -/
theorem readValue_of_isNumeralChar (hc : isNumeralChar c = true) (cs : List Char) :
    readValue (allowance + 1) depth (c :: cs) =
      if c = '-' ∨ c.isDigit then readNumber (c :: cs) else .error (.unexpected c) := by
  -- a character of numbers is none of those that open another value
  have hne (d : Char) (hd : isNumeralChar d = false) : c ≠ d := ne_of_isNumeralChar hc hd
  rw [readValue, skipBlanks_of_not (not_isJsonBlank_of_isNumeralChar hc)]
  split
  case h_1 heq => exact absurd heq nofun
  case h_2 heq => exact absurd (List.cons.inj heq).1 (hne _ rfl)
  case h_3 heq => exact absurd (List.cons.inj heq).1 (hne _ rfl)
  case h_4 heq => exact absurd (List.cons.inj heq).1 (hne _ rfl)
  case h_5 heq =>
    obtain ⟨rfl, rfl⟩ := List.cons.inj heq
    rw [if_neg (hne _ rfl), if_neg (hne _ rfl), if_neg (hne _ rfl)]

/-- A text of such characters that means a number is read as the number to its end. -/
theorem readNumber_of_read? {s : String} {n : JsonNumber}
    (hall : s.toList.all isNumeralChar = true) (h : read? s = some (.number n)) :
    readNumber s.toList = .ok (.number n, []) := by
  -- the reader took a value, and then nothing but blanks was left
  obtain ⟨written, hwritten, hsettled⟩ := map_eq_ok_iff.1 (eq_ok_of_toOption h)
  obtain ⟨⟨v, left⟩, hv, hend⟩ := bind_eq_ok_iff.1 hwritten
  dsimp only at hend
  split at hend
  case h_1 hblanks =>
    obtain rfl := Except.ok.inj hend
    generalize s.toList = cs at hall hv
    cases cs with
    | nil => exact absurd hv nofun
    | cons c cs =>
      obtain ⟨hc, -⟩ := Bool.and_eq_true_iff.1 (List.all_cons.symm.trans hall)
      rw [readValue_of_isNumeralChar hc] at hv
      split at hv
      case isTrue =>
        -- nothing is left: all of it would be characters of numbers, and blanks
        have hleft : left = [] := by
          cases left with
          | nil => rfl
          | cons d left =>
            have hd : d ∈ c :: cs := (suffix_of_readNumber hv).mem List.mem_cons_self
            rw [skipBlanks_of_not (not_isJsonBlank_of_isNumeralChar
              (List.all_eq_true.1 hall d hd))] at hblanks
            exact absurd hblanks nofun
        rw [hv, hleft]
        cases v with
        | number m => rw [← hsettled]; rfl
        | _ => exact absurd hsettled (by simp [settled])
      case isFalse => exact absurd hv nofun
  case h_2 => exact absurd hend nofun

/-- **A number with a fraction is read off its text** if that is what its text means. -/
theorem readNumber_float {x : Double} (h : (JsonNumber.float x).Storable) :
    readNumber (JsonNumber.float x).text.toList = .ok (.number (.float x), []) := by
  have hall : (JsonNumber.float x).text = "null" ∨
      (JsonNumber.float x).text.toList.all isNumeralChar = true := by
    unfold JsonNumber.text
    dsimp only
    split
    case isTrue => exact .inr (all_text x)
    case isFalse => exact .inl rfl
  have hread : read? (JsonNumber.float x).text = some (.number (.float x)) := h
  rcases hall with hnull | hall
  · -- not finite: its text means nothing but null, so it is not held at all
    have hnothing : read? "null" = some .null := by decide
    rw [hnull, hnothing] at hread
    exact absurd hread nofun
  · exact readNumber_of_read? hall hread

/-- **The text of a number is read as the number.** -/
theorem readNumber_text {n : JsonNumber} (h : n.Storable) :
    readNumber n.text.toList = .ok (.number n, []) := by
  cases n with
  | int i => exact readNumber_int h
  | float x => exact readNumber_float h

/-- A number begins with a minus or a digit. -/
theorem exists_cons_of_readNumber {r : Json × List Char} (h : readNumber cs = .ok r) :
    ∃ c more, cs = c :: more ∧ (c = '-' ∨ c.isDigit = true) := by
  obtain ⟨numeral, hnumeral, -⟩ := bind_eq_ok_iff.1 h
  cases cs with
  | nil => exact absurd hnumeral nofun
  | cons c more =>
    -- neither a sign nor a digit: no digits are taken, and the reader fails
    refine ⟨c, more, rfl, Classical.byContradiction fun hc => ?_⟩
    obtain ⟨hminus, hdigit⟩ := not_or.1 hc
    rw [readNumeral] at hnumeral
    · rw [List.takeWhile_cons_of_neg hdigit] at hnumeral
      exact absurd hnumeral nofun
    · rintro _ heq
      exact hminus (List.cons.inj heq).1

/-- The text of a number begins so. -/
theorem exists_text_eq_cons {n : JsonNumber} (hn : n.Storable) :
    ∃ c more, n.text.toList = c :: more ∧ isNumeralChar c = true ∧
      (c = '-' ∨ c.isDigit = true) := by
  obtain ⟨c, more, heq, hc⟩ := exists_cons_of_readNumber (readNumber_text hn)
  refine ⟨c, more, heq, ?_, hc⟩
  rcases hc with rfl | hdigit
  · rfl
  · exact isNumeralChar_of_isDigit hdigit

/-- **A number is read off the front of a text** if it ends there. -/
theorem readValue_number {n : JsonNumber} (hn : n.Storable) (hrest : EndsNumeral rest) :
    readValue (allowance + 1) depth (n.text.toList ++ rest) = .ok (.number n, rest) := by
  -- the number ends at `rest`, so it is read as it is by itself
  have hread : readNumber (n.text.toList ++ rest) = .ok (.number n, rest) := by
    rw [readNumber_append hrest, readNumber_text hn]
    rfl
  obtain ⟨c, more, heq, hchar, hc⟩ := exists_text_eq_cons hn
  rw [heq, List.cons_append] at hread ⊢
  rw [readValue_of_isNumeralChar hchar, if_pos hc, hread]

end Json

end Pushdown
