/-!
# Binary floating point by its bit patterns

A number with a fraction is held in one of the two IEEE 754 interchange formats. Here such a number
is a sign and the pattern of its remaining bits read as a natural number, its **magnitude**. The
patterns of one sign are ordered as the numbers they stand for, so comparing two numbers is
comparing two integers, and rounding a quotient is finding the nearest pattern.

Every operation is exact natural arithmetic followed by one rounding, to the nearest pattern and
from a tie to the even one. Nothing here is an operation of the machine, so a proof can unfold all
of it. Numbers that are not NaN are compared by an integer key, which is the same for both zeros, so
comparing the other way round reverses the outcome (`Double.compare?_swap`).
-/

namespace Pushdown.Number

/-! ### Rounding a quotient -/

/-- The quotient of two naturals, to the nearest natural; a tie goes to the even neighbour. -/
def roundDiv (num den : Nat) : Nat :=
  let q := num / den
  let r := num % den
  if 2 * r < den then q
  else if den < 2 * r then q + 1
  else q + q % 2

/-- A binary interchange format: the number of significant bits and of exponent bits. -/
structure BinaryFormat where
  /-- Significant bits, the leading one included. -/
  precision : Nat
  /-- Width of the exponent field. -/
  exponentWidth : Nat

namespace BinaryFormat

/-- Sixty-four bits: fifty-three significant ones. -/
def double : BinaryFormat := ⟨53, 11⟩

/-- Thirty-two bits: twenty-four significant ones. -/
def single : BinaryFormat := ⟨24, 8⟩

variable (f : BinaryFormat)

/-- The weight, as a power of two, of the last bit of the smallest numbers. -/
def minExponent : Int := 3 - (1 <<< (f.exponentWidth - 1) : Nat) - f.precision

/-- The magnitude of infinity: the exponent field all ones, the fraction zero. -/
def infinity : Nat := (1 <<< f.exponentWidth - 1) <<< (f.precision - 1)

/-- **Significand and weight.** The number with magnitude `m` below infinity is the first component
times two to the second. -/
def decode (m : Nat) : Nat × Int :=
  let unit := 1 <<< (f.precision - 1)
  let field := m / unit
  if field = 0 then (m, f.minExponent)
  else (unit + m % unit, f.minExponent + (field - 1 : Nat))

/-- The greatest `k` with two to the `k` at most `num / den`, for positive `num` and `den`. -/
def floorLog2 (num den : Nat) : Int :=
  let k : Int := (num.log2 : Int) - den.log2
  let fits := if 0 ≤ k then den <<< k.toNat ≤ num else den ≤ num <<< (-k).toNat
  if fits then k else k - 1

/-- **The magnitude nearest to a quotient.** A tie goes to the even magnitude, and what lies beyond
the largest finite number is infinity. The weight of the last bit is chosen so that the significand
has full precision, unless that weight would fall below the smallest one; a significand that rounds
up to the next power of two then carries into the exponent field by itself. -/
def nearest (num den : Nat) : Nat :=
  if num = 0 then 0
  else
    -- with this weight the significand has full precision, or the number is among the smallest
    let weight := max (floorLog2 num den - (f.precision - 1 : Nat)) f.minExponent
    let significand :=
      if 0 ≤ weight then roundDiv num (den <<< weight.toNat)
      else roundDiv (num <<< (-weight).toNat) den
    min ((weight - f.minExponent).toNat <<< (f.precision - 1) + significand) f.infinity

end BinaryFormat

/-! ### Numbers of sixty-four bits -/

/-- **A binary64 number**, by its sign and the pattern of its other sixty-three bits. -/
structure Double where
  /-- The sign bit. -/
  negative : Bool
  /-- The remaining bits, read as a natural number. -/
  magnitude : Nat
  deriving DecidableEq, Repr

namespace Double

/-- Positive zero. -/
def zero : Double := ⟨false, 0⟩

/-- The infinity of a sign. -/
def infinite (negative : Bool) : Double := ⟨negative, BinaryFormat.double.infinity⟩

/-- A quiet NaN. -/
def notANumber : Double := ⟨false, BinaryFormat.double.infinity + 1⟩

/-- Not a number: the exponent field is all ones and the fraction is not zero. -/
def isNaN (x : Double) : Bool := BinaryFormat.double.infinity < x.magnitude

/-- Neither infinite nor a NaN. -/
def isFinite (x : Double) : Bool := x.magnitude < BinaryFormat.double.infinity

/-- The number nearest to `num / den`, with a sign. -/
def ofRatio (negative : Bool) (num den : Nat) : Double :=
  ⟨negative, BinaryFormat.double.nearest num den⟩

/-- The number nearest to an integer. -/
def ofInt (i : Int) : Double := ofRatio (decide (i < 0)) i.natAbs 1

/-- The opposite number. -/
def neg (x : Double) : Double := { x with negative := !x.negative }

/-- **Value as a quotient.** The absolute value of a finite number is the first component over the
second. -/
def ratio (x : Double) : Nat × Nat :=
  let (significand, weight) := BinaryFormat.double.decode x.magnitude
  if 0 ≤ weight then (significand <<< weight.toNat, 1) else (significand, 1 <<< (-weight).toNat)

/-- The product of two finite numbers, rounded once. -/
def mul (x y : Double) : Double :=
  let (a, b) := x.ratio
  let (c, d) := y.ratio
  ofRatio (x.negative != y.negative) (a * c) (b * d)

/-- The quotient of two finite numbers, the second not zero, rounded once. -/
def div (x y : Double) : Double :=
  let (a, b) := x.ratio
  let (c, d) := y.ratio
  ofRatio (x.negative != y.negative) (a * d) (b * c)

/-- **Order key.** Numbers are ordered as their keys; the two zeros share the key zero. -/
def key (x : Double) : Int := if x.negative then -(x.magnitude : Int) else x.magnitude

/-- **Comparison.** A NaN is comparable with nothing, itself included. -/
def compare? (x y : Double) : Option Ordering :=
  if x.isNaN || y.isNaN then none else some (compare x.key y.key)

/-- Equality of values: the two zeros are equal and a NaN differs from everything. -/
def sameValue (x y : Double) : Bool := x.compare? y == some .eq

/-- **Single precision.** The nearest binary32 number, as a binary64 number again. Widening is
exact, so only the first step rounds. -/
def toSingle (x : Double) : Double :=
  if x.isFinite then
    let (num, den) := x.ratio
    let narrow := BinaryFormat.single.nearest num den
    if narrow < BinaryFormat.single.infinity then
      let (significand, weight) := BinaryFormat.single.decode narrow
      if 0 ≤ weight then ofRatio x.negative (significand <<< weight.toNat) 1
      else ofRatio x.negative significand (1 <<< (-weight).toNat)
    else infinite x.negative
  else x

/-! ### Small laws -/

/-- Comparing the other way round reverses the outcome. -/
theorem compare?_swap (x y : Double) : y.compare? x = (x.compare? y).map Ordering.swap := by
  unfold compare?
  rw [Bool.or_comm y.isNaN]
  split
  · rfl
  · simp [Int.compare_swap]

end Double

end Pushdown.Number
