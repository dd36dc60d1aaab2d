import Mathlib.Data.Nat.Log
import Mathlib.Tactic.Ring
import Pushdown.Number.Binary

/-!
# Integers as binary64 numbers

The double nearest to an integer is found by its pattern, and doubles compare by their patterns.
Both are said here in terms of integers: what a double keeps of an integer of at most sixty-four
bits is the integer to fifty-three significant bits, `rounded`, and doubles are ordered as these are
(`Double.key_ofInt_lt_iff`). Rounding keeps the order of integers (`rounded_mono`) but not that they
are different, so a comparison of doubles is one of the integers unless both are rounded to the same
(`compare_rounded_eq_iff`). Integers of at most fifty-three bits are kept as they are.

A pattern is an exponent above a **significand**. A significand is rounded on its own, and may come
out as a whole power of two; it then carries into the exponent. That is why the order of patterns is
shown for significands between one unit and two, both included, `pattern_lt_iff`.
-/

namespace Pushdown.Number

/-! ### Rounded quotients -/

section Quotients

variable {num num' den : Nat}

/-- A quotient without a remainder is not rounded. -/
theorem roundDiv_mul (q : Nat) (hden : 0 < den) : roundDiv (q * den) den = q := by
  unfold roundDiv
  dsimp only
  rw [Nat.mul_div_cancel q hden, Nat.mul_mod_left, if_pos (by omega)]

/-- A rounded quotient is one of the two neighbours. -/
theorem roundDiv_eq_or (num den : Nat) :
    roundDiv num den = num / den ∨ roundDiv num den = num / den + 1 := by
  unfold roundDiv
  dsimp only
  -- a tie goes to the even neighbour, so the parity has to be one or the other
  have hparity : num / den % 2 = 0 ∨ num / den % 2 = 1 := by omega
  split
  · exact .inl rfl
  · split
    · exact .inr rfl
    · rcases hparity with h | h
      · exact .inl (by rw [h]; rfl)
      · exact .inr (by rw [h])

/-- **A rounded quotient grows with its numerator.** -/
theorem roundDiv_mono (h : num ≤ num') : roundDiv num den ≤ roundDiv num' den := by
  have hquot : num / den ≤ num' / den := Nat.div_le_div_right h
  rcases Nat.lt_or_eq_of_le hquot with hlt | heq
  · -- a greater quotient leaves room for the one unit that rounding may add
    have hleft := roundDiv_eq_or num den
    have hright := roundDiv_eq_or num' den
    omega
  · -- between the same neighbours the remainders decide
    have hrem : num % den ≤ num' % den := by
      have h₁ := Nat.div_add_mod num den
      have h₂ := Nat.div_add_mod num' den
      rw [heq] at h₁
      omega
    unfold roundDiv
    dsimp only
    rw [heq]
    repeat' split
    all_goals omega

end Quotients

/-! ### Integers of fifty-three significant bits -/

/-- **A natural number to fifty-three significant bits**: the nearest multiple of the weight that
the last of them has, and from a tie the one with an even last bit. -/
def roundedNat (n : Nat) : Nat := roundDiv n (2 ^ (n.log2 - 52)) * 2 ^ (n.log2 - 52)

/-- **An integer to fifty-three significant bits.** -/
def rounded (i : Int) : Int := if i < 0 then -(roundedNat i.natAbs : Int) else roundedNat i.natAbs

variable {n m : Nat}

/-- The last of fifty-three significant bits of a small number has the weight one. -/
theorem roundedNat_of_log2_le (h : n.log2 ≤ 52) : roundedNat n = n := by
  have hweight : n.log2 - 52 = 0 := Nat.sub_eq_zero_of_le h
  unfold roundedNat
  rw [hweight, Nat.pow_zero, Nat.mul_one]
  have hquot := roundDiv_mul n Nat.one_pos
  rwa [Nat.mul_one] at hquot

/-- **A number of at most fifty-three bits is not rounded.** -/
theorem roundedNat_eq_self (h : n ≤ 2 ^ 53) : roundedNat n = n := by
  -- zero and `2 ^ 53` itself stand apart: the logarithm says nothing of the one,
  -- and of the other it is one too great
  rcases Nat.lt_or_eq_of_le h with hlt | rfl
  · rcases Nat.eq_zero_or_pos n with rfl | hpos
    · rfl
    · have hlog : n.log2 < 53 := (Nat.log2_lt (Nat.ne_of_gt hpos)).2 hlt
      exact roundedNat_of_log2_le (Nat.le_of_lt_succ hlog)
  · rfl

/-- The significand of a number that has all fifty-three bits. -/
theorem significand_bounds (h : 52 ≤ n.log2) :
    2 ^ 52 ≤ roundDiv n (2 ^ (n.log2 - 52)) ∧ roundDiv n (2 ^ (n.log2 - 52)) ≤ 2 ^ 53 := by
  have hne : n ≠ 0 := by
    rintro rfl
    exact absurd h (by decide)
  have hunit : 0 < 2 ^ (n.log2 - 52) := Nat.two_pow_pos _
  have hlow : 2 ^ 52 * 2 ^ (n.log2 - 52) = 2 ^ n.log2 := by
    rw [← Nat.pow_add, Nat.add_sub_cancel' h]
  have hhigh : 2 ^ 53 * 2 ^ (n.log2 - 52) = 2 ^ (n.log2 + 1) := by
    rw [← Nat.pow_add]
    congr 1
    omega
  constructor
  · -- both bounds are quotients without a remainder, and a rounded quotient is monotone
    rw [← roundDiv_mul (2 ^ 52) hunit, hlow]
    exact roundDiv_mono (Nat.log2_self_le hne)
  · rw [← roundDiv_mul (2 ^ 53) hunit, hhigh]
    exact roundDiv_mono (Nat.le_of_lt Nat.lt_log2_self)

/-- **A rounded number stays between the powers of two around it.** -/
theorem roundedNat_bounds (h : n ≠ 0) :
    2 ^ n.log2 ≤ roundedNat n ∧ roundedNat n ≤ 2 ^ (n.log2 + 1) := by
  rcases Nat.le_total n.log2 52 with hsmall | hlarge
  · rw [roundedNat_of_log2_le hsmall]
    exact ⟨Nat.log2_self_le h, Nat.le_of_lt Nat.lt_log2_self⟩
  · obtain ⟨hlow, hhigh⟩ := significand_bounds hlarge
    have hle := Nat.mul_le_mul_right (2 ^ (n.log2 - 52)) hlow
    have hge := Nat.mul_le_mul_right (2 ^ (n.log2 - 52)) hhigh
    rw [← Nat.pow_add] at hle hge
    have hlogs : 52 + (n.log2 - 52) = n.log2 ∧ 53 + (n.log2 - 52) = n.log2 + 1 := by omega
    rw [hlogs.1] at hle
    rw [hlogs.2] at hge
    exact ⟨hle, hge⟩

/-- **Rounding keeps the order**, though not the strict one. -/
theorem roundedNat_mono (h : n ≤ m) : roundedNat n ≤ roundedNat m := by
  rcases Nat.eq_zero_or_pos n with rfl | hpos
  · exact Nat.zero_le _
  · have hn : n ≠ 0 := Nat.ne_of_gt hpos
    have hm : m ≠ 0 := Nat.ne_of_gt (Nat.lt_of_lt_of_le hpos h)
    have hlog : n.log2 ≤ m.log2 :=
      (Nat.le_log2 hm).2 (Nat.le_trans (Nat.log2_self_le hn) h)
    rcases Nat.lt_or_eq_of_le hlog with hlt | heq
    · -- a power of two lies between them
      calc roundedNat n ≤ 2 ^ (n.log2 + 1) := (roundedNat_bounds hn).2
        _ ≤ 2 ^ m.log2 := Nat.pow_le_pow_right Nat.two_pos hlt
        _ ≤ roundedNat m := (roundedNat_bounds hm).1
    · -- the same exponent: both are rounded to multiples of one weight
      unfold roundedNat
      rw [heq]
      exact Nat.mul_le_mul_right _ (roundDiv_mono h)

/-! ### Patterns -/

/-- **Patterns are ordered as the numbers they stand for.** A pattern is the place of its exponent
times a unit, and the significand on top, which is between one and two units; the number is the
significand times the power of two. A significand of two units is one unit at the next exponent, and
the two patterns are the same. -/
theorem pattern_lt_iff {unit k l c s t : Nat} (hunit : 0 < unit)
    (hs : unit ≤ s ∧ s ≤ 2 * unit) (ht : unit ≤ t ∧ t ≤ 2 * unit) :
    (k + c) * unit + s < (l + c) * unit + t ↔ s * 2 ^ k < t * 2 ^ l := by
  -- a greater exponent by `d + 1`, on either side
  have hplace (k d : Nat) : (k + 1 + d + c) * unit = (k + c) * unit + unit + d * unit := by ring
  have hpower (u k d : Nat) : u * 2 ^ (k + 1 + d) = (u * 2 * 2 ^ d) * 2 ^ k := by ring
  rcases Nat.lt_trichotomy k l with hlt | rfl | hgt
  · obtain ⟨d, rfl⟩ := Nat.exists_eq_add_of_le hlt
    rw [hplace, hpower, Nat.mul_lt_mul_right (Nat.two_pow_pos k)]
    -- at the next exponent two units may meet one; further up there is always space between
    cases d with
    | zero =>
      simp only [Nat.zero_mul, Nat.pow_zero]
      omega
    | succ d =>
      have hfour : unit * 2 * 2 ≤ t * 2 * 2 ^ (d + 1) :=
        Nat.mul_le_mul (Nat.mul_le_mul_right 2 ht.1) (Nat.le_self_pow (Nat.succ_ne_zero d) 2)
      have hspace : unit ≤ (d + 1) * unit := Nat.le_mul_of_pos_left unit (Nat.succ_pos d)
      exact iff_of_true (by omega) (by omega)
  · -- the same exponent: the significands decide
    rw [Nat.mul_lt_mul_right (Nat.two_pow_pos k)]
    omega
  · obtain ⟨d, rfl⟩ := Nat.exists_eq_add_of_le hgt
    rw [hplace, hpower, Nat.mul_lt_mul_right (Nat.two_pow_pos l)]
    -- the mirror image of the first case, where one inequality is enough
    have htwo : unit * 2 * 1 ≤ s * 2 * 2 ^ d :=
      Nat.mul_le_mul (Nat.mul_le_mul_right 2 hs.1) (Nat.two_pow_pos d)
    exact iff_of_false (by omega) (by omega)

/-- **The significand of a number**: fifty-three bits of it, or all of it and zeros behind. -/
def significand (n : Nat) : Nat :=
  if 52 ≤ n.log2 then roundDiv n (2 ^ (n.log2 - 52)) else n * 2 ^ (52 - n.log2)

theorem significand_mem (h : n ≠ 0) : 2 ^ 52 ≤ significand n ∧ significand n ≤ 2 * 2 ^ 52 := by
  unfold significand
  split
  case isTrue hlarge => exact significand_bounds hlarge
  case isFalse hsmall =>
    have hlog : n.log2 + (52 - n.log2) = 52 := by omega
    have hlow := Nat.mul_le_mul_right (2 ^ (52 - n.log2)) (Nat.log2_self_le h)
    have hhigh := Nat.mul_le_mul_right (2 ^ (52 - n.log2))
      (Nat.le_of_lt (Nat.lt_log2_self (n := n)))
    rw [← Nat.pow_add, hlog] at hlow
    rw [Nat.pow_succ', Nat.mul_assoc, ← Nat.pow_add, hlog] at hhigh
    exact ⟨hlow, hhigh⟩

/-- The significand and the power of two make up the rounded number. -/
theorem significand_mul (n : Nat) : significand n * 2 ^ n.log2 = roundedNat n * 2 ^ 52 := by
  unfold significand
  split
  case isTrue hlarge =>
    have hlog : n.log2 - 52 + 52 = n.log2 := Nat.sub_add_cancel hlarge
    unfold roundedNat
    rw [Nat.mul_assoc, ← Nat.pow_add, hlog]
  case isFalse hsmall =>
    have hlog : 52 - n.log2 + n.log2 = 52 := by omega
    rw [roundedNat_of_log2_le (by omega), Nat.mul_assoc, ← Nat.pow_add, hlog]

theorem log2_lt_of_lt (h : n < 2 ^ 64) : n.log2 < 64 := by
  rcases Nat.eq_zero_or_pos n with rfl | hpos
  · decide
  · exact (Nat.log2_lt (Nat.ne_of_gt hpos)).2 h

theorem floorLog2_one (hne : n ≠ 0) : BinaryFormat.floorLog2 n 1 = n.log2 := by
  have hlog : ((1 : Nat).log2 : Int) = 0 := by decide
  have hnat : (0 : Int) ≤ n.log2 := Int.natCast_nonneg _
  have hfits : if 0 ≤ (n.log2 : Int) then 1 <<< (n.log2 : Int).toNat ≤ n
      else 1 ≤ n <<< (-(n.log2 : Int)).toNat := by
    rw [if_pos hnat, Int.toNat_natCast, Nat.one_shiftLeft]
    exact Nat.log2_self_le hne
  unfold BinaryFormat.floorLog2
  rw [hlog, Int.sub_zero]
  exact if_pos hfits

/-- **The pattern nearest to an integer** of at most sixty-four bits. -/
theorem nearest_one (hne : n ≠ 0) (h : n < 2 ^ 64) :
    BinaryFormat.double.nearest n 1 = (n.log2 + 1022) * 2 ^ 52 + significand n := by
  have hlog : n.log2 < 64 := log2_lt_of_lt h
  have hmin : BinaryFormat.double.minExponent = -1074 := by decide
  have hbits : BinaryFormat.double.precision - 1 = 52 := rfl
  -- an integer is never among the smallest numbers
  have hweight : max ((n.log2 : Int) - (52 : Nat)) (-1074) = (n.log2 : Int) - 52 := by omega
  have hplace : ((n.log2 : Int) - 52 - -1074).toNat = n.log2 + 1022 := by omega
  have hsignificand : (if 0 ≤ (n.log2 : Int) - 52
      then roundDiv n (1 <<< ((n.log2 : Int) - 52).toNat)
      else roundDiv (n <<< (-((n.log2 : Int) - 52)).toNat) 1) = significand n := by
    unfold significand
    by_cases hlarge : 52 ≤ n.log2
    · have hnat : ((n.log2 : Int) - 52).toNat = n.log2 - 52 := by omega
      rw [if_pos (by omega), if_pos hlarge, hnat, Nat.one_shiftLeft]
    · have hnat : (-((n.log2 : Int) - 52)).toNat = 52 - n.log2 := by omega
      have hquot := roundDiv_mul (n * 2 ^ (52 - n.log2)) Nat.one_pos
      rw [Nat.mul_one] at hquot
      rw [if_neg (by omega), if_neg hlarge, hnat, Nat.shiftLeft_eq, hquot]
  have hfinite : (n.log2 + 1022) * 2 ^ 52 + significand n ≤ BinaryFormat.double.infinity := by
    -- at most sixty-four bits are far below the greatest exponent
    have hinfinity : BinaryFormat.double.infinity = 2047 * 2 ^ 52 := by decide
    have hle := (significand_mem hne).2
    rw [hinfinity]
    omega
  unfold BinaryFormat.nearest
  rw [if_neg hne, floorLog2_one hne, hmin, hbits, hweight]
  dsimp only
  rw [hsignificand, hplace, Nat.shiftLeft_eq, Nat.min_eq_left hfinite]

theorem nearest_pos (hne : n ≠ 0) (h : n < 2 ^ 64) : 0 < BinaryFormat.double.nearest n 1 := by
  have hsignificand := (significand_mem hne).1
  rw [nearest_one hne h]
  omega

theorem roundedNat_pos (hne : n ≠ 0) : 0 < roundedNat n :=
  Nat.lt_of_lt_of_le (Nat.two_pow_pos _) (roundedNat_bounds hne).1

/-! ### Comparisons -/

/-- **Rounded numbers are ordered as their patterns.** -/
theorem nearest_lt_nearest_iff (hn : n < 2 ^ 64) (hm : m < 2 ^ 64) :
    BinaryFormat.double.nearest n 1 < BinaryFormat.double.nearest m 1 ↔
      roundedNat n < roundedNat m := by
  -- zero has no leading bit, so its pattern is looked at by itself
  by_cases hm₀ : m = 0
  · subst hm₀
    exact iff_of_false (Nat.not_lt_zero _) (Nat.not_lt_zero _)
  · by_cases hn₀ : n = 0
    · subst hn₀
      exact iff_of_true (nearest_pos hm₀ hm) (roundedNat_pos hm₀)
    · rw [nearest_one hn₀ hn, nearest_one hm₀ hm,
        pattern_lt_iff (Nat.two_pow_pos 52) (significand_mem hn₀) (significand_mem hm₀),
        significand_mul, significand_mul, Nat.mul_lt_mul_right (Nat.two_pow_pos 52)]

variable {i j : Int}

/-- **An integer of sixty-four bits**, with a sign or without. -/
def InRange (i : Int) : Prop := -2 ^ 63 ≤ i ∧ i < 2 ^ 64

instance : DecidablePred InRange := fun i =>
  inferInstanceAs (Decidable (-2 ^ 63 ≤ i ∧ i < 2 ^ 64))

/-- **Integers are ordered as doubles as what is left of them with fifty-three bits.** -/
theorem Double.key_ofInt_lt_iff (hi : InRange i) (hj : InRange j) :
    (Double.ofInt i).key < (Double.ofInt j).key ↔ rounded i < rounded j := by
  have hi' : i.natAbs < 2 ^ 64 := by
    unfold InRange at hi
    omega
  have hj' : j.natAbs < 2 ^ 64 := by
    unfold InRange at hj
    omega
  have hlt := nearest_lt_nearest_iff hi' hj'
  have hgt := nearest_lt_nearest_iff hj' hi'
  have hpos (h : i < 0) : 0 < BinaryFormat.double.nearest i.natAbs 1 ∧ 0 < roundedNat i.natAbs :=
    ⟨nearest_pos (by omega) hi', roundedNat_pos (by omega)⟩
  unfold Double.key Double.ofInt Double.ofRatio rounded
  dsimp only
  -- two minuses turn both orders, and against a plus the pattern only has to be positive
  by_cases hineg : i < 0
  · obtain ⟨hpattern, hrounded⟩ := hpos hineg
    by_cases hjneg : j < 0
    · simp only [hineg, hjneg, decide_true, if_true]
      omega
    · simp only [hineg, hjneg, decide_true, decide_false, if_true, if_false, Bool.false_eq_true]
      omega
  · by_cases hjneg : j < 0
    · simp only [hineg, hjneg, decide_true, decide_false, if_true, if_false, Bool.false_eq_true]
      omega
    · simp only [hineg, hjneg, decide_false, if_false, Bool.false_eq_true]
      omega

theorem rounded_eq_self (h : i.natAbs ≤ 2 ^ 53) : rounded i = i := by
  unfold rounded
  rw [roundedNat_eq_self h]
  split <;> omega

/-- **Rounding keeps the order of integers**, though not the strict one. -/
theorem rounded_mono (h : i ≤ j) : rounded i ≤ rounded j := by
  unfold rounded
  split
  case isTrue hi =>
    split
    case isTrue hj =>
      -- below zero the greater integer has the smaller size
      have hle := roundedNat_mono (n := j.natAbs) (m := i.natAbs) (by omega)
      omega
    case isFalse => omega
  case isFalse hi =>
    have hj : ¬ j < 0 := by omega
    have hle := roundedNat_mono (n := i.natAbs) (m := j.natAbs) (by omega)
    rw [if_neg hj]
    omega

/-- **Rounding shows in a comparison exactly if it takes two integers to one.** -/
theorem compare_rounded_eq_iff :
    compare (rounded i) (rounded j) = compare i j ↔ i = j ∨ rounded i ≠ rounded j := by
  rcases Int.lt_trichotomy i j with hlt | rfl | hgt
  · -- rounding cannot turn the order, so it shows only by making them equal
    have hle := rounded_mono (Int.le_of_lt hlt)
    rw [compare_lt_iff_lt.2 hlt, compare_lt_iff_lt, or_iff_right (Int.ne_of_lt hlt)]
    omega
  · refine iff_of_true ?_ (.inl rfl)
    rw [compare_eq_iff_eq.2 rfl, compare_eq_iff_eq.2 rfl]
  · have hle := rounded_mono (Int.le_of_lt hgt)
    rw [compare_gt_iff_gt.2 hgt, compare_gt_iff_gt, or_iff_right (Int.ne_of_gt hgt)]
    omega

end Pushdown.Number
