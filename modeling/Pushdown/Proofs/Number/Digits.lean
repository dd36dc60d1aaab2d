import Pushdown.Number.Decimal

/-!
# Digits of natural numbers

A natural number is written as at least one digit, and as no zero with digits behind it. What was
written has the number as its value.
-/

namespace Pushdown.Number

theorem toNat_of_isDigit {c : Char} (h : c.isDigit = true) : 48 ≤ c.toNat ∧ c.toNat ≤ 57 := by
  simp only [Char.isDigit, ge_iff_le, Bool.and_eq_true, decide_eq_true_eq,
    UInt32.le_iff_toNat_le] at h
  exact h

theorem isDigit_of_mem_digitsOf {n : Nat} {c : Char} (h : c ∈ digitsOf n) : c.isDigit = true :=
  Nat.isDigit_of_mem_toDigits (by decide) (by decide) h

theorem digitsOf_ne_nil (n : Nat) : digitsOf n ≠ [] := Nat.toDigits_ne_nil

/-- **Digits have the value that they were written for.** -/
theorem ofDigits_digitsOf (n : Nat) : ofDigits (digitsOf n) = n :=
  Nat.ofDigitChars_toDigits (by decide) (by decide)

/-- **There are no leading zeros.** -/
theorem digitsOf_ne_zero_cons (n : Nat) (c : Char) (cs : List Char) :
    digitsOf n ≠ '0' :: c :: cs := by
  -- on the number: its digits but the last are those of a tenth of it
  induction n using Nat.strongRecOn generalizing c cs with
  | ind n ih =>
    intro h
    by_cases hn : n < 10
    · rw [digitsOf, Nat.toDigits_of_lt_base hn] at h
      exact absurd (List.cons.inj h).2 nofun
    · have hle : 10 ≤ n := Nat.le_of_not_lt hn
      have htenth : n / 10 < n := by omega
      rw [digitsOf, Nat.toDigits_of_base_le (by decide) hle] at h
      cases hdigits : digitsOf (n / 10) with
      | nil => exact digitsOf_ne_nil _ hdigits
      | cons d ds =>
        rw [digitsOf] at hdigits
        rw [hdigits] at h
        obtain ⟨rfl, -⟩ := List.cons.inj h
        cases ds with
        | nil =>
          -- a single zero is no tenth of ten or more
          have hvalue := ofDigits_digitsOf (n / 10)
          rw [digitsOf, hdigits] at hvalue
          have hzero : ofDigits ['0'] = 0 := by decide
          omega
        | cons d' ds => exact ih (n / 10) htenth d' ds hdigits

end Pushdown.Number
