import Pushdown.Number.Binary

/-!
# The fewest digits that read back

A finite number stands for every real that rounds to it. Among the decimals in that interval the
written form is one with the fewest digits, and of those the one nearest to the number itself, from
a tie the even one.

The search needs no estimate of the digit count. For one digit, then two, and so on, the decimals
with that many digits form a grid, and if any point of the grid lies in the interval then so does
one of the two neighbours of the number on it. So testing two neighbours per grid finds the first
grid with a hit, in exact arithmetic. Seventeen digits always suffice for binary64.
-/

namespace Pushdown.Number

/-! ### Comparing with scaled powers of ten -/

/-- Ten to a power. -/
def tenPower (k : Nat) : Nat := Nat.pow 10 k

/-- A positive real given exactly: `digits` times ten to the `scale`. -/
structure Decimal where
  /-- The digits, read as one natural number. -/
  digits : Nat
  /-- The power of ten of the last digit. -/
  scale : Int
  deriving DecidableEq, Repr

namespace Decimal

/-- A quotient with the value of the decimal. -/
def ratio (d : Decimal) : Nat × Nat :=
  if 0 ≤ d.scale then (d.digits * tenPower d.scale.toNat, 1)
  else (d.digits, tenPower (-d.scale).toNat)

/-- The same value without trailing zeros; `fuel` bounds how many are removed. -/
def strip : Nat → Decimal → Decimal
  | 0, d => d
  | fuel + 1, d =>
    if d.digits ≠ 0 ∧ d.digits % 10 = 0 then strip fuel ⟨d.digits / 10, d.scale + 1⟩ else d

end Decimal

/-! ### The interval of a number -/

/-- **The reals that round to a number**, as three naturals over one denominator: the lower end, the
number itself and the upper end. -/
structure RoundingInterval where
  /-- The lower end. -/
  low : Nat
  /-- The number. -/
  value : Nat
  /-- The upper end. -/
  high : Nat
  /-- The common denominator. -/
  den : Nat
  /-- Whether the ends themselves round to the number, as they do when its pattern is even. -/
  closed : Bool

namespace RoundingInterval

/-- The interval of a magnitude that is neither zero nor infinite. The number below a power of two
is half as far away as the one above it, so there the lower end is a quarter of a unit away. -/
def ofMagnitude (f : BinaryFormat) (m : Nat) : RoundingInterval :=
  let (significand, weight) := f.decode m
  let lower := if significand = 1 <<< (f.precision - 1) ∧ f.minExponent < weight then 1 else 2
  { low := (4 * significand - lower) <<< weight.toNat
    value := (4 * significand) <<< weight.toNat
    high := (4 * significand + 2) <<< weight.toNat
    den := 4 <<< (-weight).toNat
    closed := m % 2 = 0 }

/-- The decimal rounds to the number. -/
def holds (i : RoundingInterval) (d : Decimal) : Bool :=
  let (num, den) := d.ratio
  if i.closed then i.low * den ≤ num * i.den && num * i.den ≤ i.high * den
  else i.low * den < num * i.den && num * i.den < i.high * den

/-- Twice the distance from a decimal to the number, over a denominator that depends only on the
decimal's scale. -/
def distance (i : RoundingInterval) (d : Decimal) : Nat :=
  let (num, den) := d.ratio
  (num * i.den - i.value * den) + (i.value * den - num * i.den)

/-- The greatest multiple of ten to the `scale` that is at most the number. -/
def below (i : RoundingInterval) (scale : Int) : Decimal :=
  ⟨i.value * tenPower (-scale).toNat / (i.den * tenPower scale.toNat), scale⟩

/-- **The hit on one grid**, if there is one: of the number's two neighbours on the grid, those that
round to it, and of two the nearer, from a tie the even one. -/
def hit? (i : RoundingInterval) (scale : Int) : Option Decimal :=
  let d := i.below scale
  let u : Decimal := ⟨d.digits + 1, scale⟩
  match i.holds d, i.holds u with
  | true, false => some d
  | false, true => some u
  | false, false => none
  | true, true =>
    if i.distance d < i.distance u then some d
    else if i.distance u < i.distance d then some u
    else if d.digits % 2 = 0 then some d else some u

/-- The first hit on grids that grow finer by one digit each, `grids` of them. -/
def search (i : RoundingInterval) : Nat → Int → Decimal
  | 0, scale => i.below scale
  | grids + 1, scale => (i.hit? scale).getD (search i grids (scale - 1))

/-- The greatest power of ten, as an exponent, that is at most the number. The estimate from the
binary logarithm is at most one too small or too large, which two comparisons correct. -/
def leadingScale (i : RoundingInterval) : Int :=
  let estimate := BinaryFormat.floorLog2 i.value i.den * 30103 / 100000
  if (i.below (estimate + 1)).digits ≠ 0 then estimate + 1
  else if (i.below estimate).digits ≠ 0 then estimate
  else estimate - 1

end RoundingInterval

/-- **Shortest decimal.** The decimal with the fewest digits that rounds to the magnitude, nearest
to it among those; zero for zero. -/
def BinaryFormat.shortest (f : BinaryFormat) (m : Nat) : Decimal :=
  if m = 0 then ⟨0, 0⟩
  else
    -- the upper neighbour can be a round number of one digit more, so zeros are taken off
    let i := RoundingInterval.ofMagnitude f m
    (i.search 17 i.leadingScale).strip 20

end Pushdown.Number
