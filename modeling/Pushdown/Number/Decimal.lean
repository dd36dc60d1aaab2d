import Pushdown.Number.Shortest
import Pushdown.Text.Blank

/-!
# Numbers as text

Naturals are written by decimal digits, and the numbers below sixteen by hexadecimal ones. For
numbers with a fraction two formats meet here. A number is **written** with its shortest digits,
positionally while the leading digit stands between the fifth place after the point and the
sixteenth before it, and with an exponent beyond; the bounds and signs are one layout record. A
number is **read** from any decimal notation, rounded once and correctly, so that a literal of any
length means the nearest number. Text that the reader accepts beyond digits are the names of the
infinities and of NaN.
-/

namespace Pushdown.Number

/-! ### Digits -/

/-- The decimal digits of a natural number. -/
def digitsOf (n : Nat) : List Char := Nat.toDigits 10 n

/-- The natural number that a run of digits writes. -/
def ofDigits (cs : List Char) : Nat :=
  cs.foldl (fun n c => 10 * n + (c.toNat - '0'.toNat)) 0

/-- The hexadecimal digit for a number below sixteen, in lower case. -/
def hexDigit (n : Nat) : Char := Nat.digitChar n

/-- The value of a hexadecimal digit, in either case. -/
def hexValue? (c : Char) : Option Nat :=
  if '0' ≤ c ∧ c ≤ '9' then some (c.toNat - '0'.toNat)
  else if 'a' ≤ c ∧ c ≤ 'f' then some (c.toNat - 'a'.toNat + 10)
  else if 'A' ≤ c ∧ c ≤ 'F' then some (c.toNat - 'A'.toNat + 10)
  else none

/-- A digit is read back. -/
theorem hexValue?_hexDigit : ∀ n : Fin 16, hexValue? (hexDigit n) = some n.val := by decide

/-- An integer's text: its digits, after a minus if it is negative. -/
def intText (i : Int) : String :=
  if i < 0 then String.ofList ('-' :: digitsOf i.natAbs) else String.ofList (digitsOf i.natAbs)

/-- A text of one or more ASCII digits, as the number it writes. -/
def readNat? (cs : List Char) : Option Nat :=
  if cs ≠ [] ∧ cs.all Char.isDigit then some (ofDigits cs) else none

/-- A text of digits after an optional sign, as an integer. -/
def readInt? : List Char → Option Int
  | '-' :: cs => (readNat? cs).map fun n => -(n : Int)
  | '+' :: cs => (readNat? cs).map Int.ofNat
  | cs => (readNat? cs).map Int.ofNat

/-- Sixty-four bits hold the naturals below two to the sixty-fourth. -/
def fitsNat64 (n : Nat) : Bool := n < 18446744073709551616

/-- With a sign among them, sixty-four bits hold the integers from minus two to the sixty-third up
to its opposite, which is left out. -/
def fitsInt64 (i : Int) : Bool := -9223372036854775808 ≤ i && i < 9223372036854775808

/-- An integer of sixty-four bits with sign. -/
def readInt64? (cs : List Char) : Option Int := (readInt? cs).filter fitsInt64

/-- A natural number of sixty-four bits; a leading plus is allowed. -/
def readNat64? (cs : List Char) : Option Nat :=
  let digits := match cs with
    | '+' :: rest => rest
    | rest => rest
  (readNat? digits).filter fitsNat64

/-! ### Writing -/

/-- Where positional notation ends and how an exponent is written. -/
structure FloatLayout where
  /-- The least exponent of the leading digit that is written positionally. -/
  leastPositional : Int
  /-- The greatest exponent of the leading digit that is written positionally. -/
  greatestPositional : Int
  /-- The sign written before an exponent that is not negative. -/
  exponentPlus : String
  /-- The fraction given to a positional whole number. -/
  wholeFraction : String

/-- **The layout of every number this library writes**: at least one decimal, positional from
`0.00001` up to sixteen digits before the point, and a signed exponent without padding beyond. -/
def FloatLayout.standard : FloatLayout := ⟨-5, 15, "+", ".0"⟩

/-- A decimal laid out. -/
def FloatLayout.write (layout : FloatLayout) (d : Decimal) : String :=
  let digits := digitsOf d.digits
  let leading : Int := d.scale + (digits.length : Int) - 1
  if layout.leastPositional ≤ leading ∧ leading ≤ layout.greatestPositional then
    if 0 ≤ d.scale then
      String.ofList (digits ++ List.replicate d.scale.toNat '0') ++ layout.wholeFraction
    else if 0 ≤ leading then
      String.ofList (digits.take (leading.toNat + 1) ++ '.' :: digits.drop (leading.toNat + 1))
    else
      String.ofList ("0.".toList ++ List.replicate (-leading - 1).toNat '0' ++ digits)
  else
    let mantissa := match digits with
      | [] => []
      | [c] => [c]
      | c :: rest => c :: '.' :: rest
    String.ofList (mantissa ++ ['e']) ++ (if 0 ≤ leading then layout.exponentPlus else "") ++
      intText leading

/-- The text of a finite number: its sign and its shortest digits. -/
def Double.text (x : Double) : String :=
  (if x.negative then "-" else "") ++
    (if x.magnitude = 0 then "0" ++ FloatLayout.standard.wholeFraction
     else FloatLayout.standard.write (BinaryFormat.double.shortest x.magnitude))

/-! ### Reading -/

/-- **The number nearest to a decimal.** Decimals far beyond the range of the format are decided by
the position of their leading digit, so that no power of ten larger than the range is formed. -/
def Double.ofDecimal (negative : Bool) (d : Decimal) : Double :=
  let leading : Int := d.scale + (digitsOf d.digits).length
  if d.digits = 0 ∨ leading < -330 then ⟨negative, 0⟩
  else if 330 < leading then .infinite negative
  else
    let (num, den) := d.ratio
    .ofRatio negative num den

/-- **A decimal notation**: digits with at most one point and at least one digit, then optionally an
exponent with at least one digit. -/
def readDecimal? (cs : List Char) : Option Decimal :=
  let whole := cs.takeWhile Char.isDigit
  let rest := cs.dropWhile Char.isDigit
  let (fraction, rest) := match rest with
    | '.' :: more => (more.takeWhile Char.isDigit, more.dropWhile Char.isDigit)
    | more => ([], more)
  let exponent? : Option Int := match rest with
    | [] => some 0
    | c :: more => if c = 'e' ∨ c = 'E' then readInt? more else none
  if whole = [] ∧ fraction = [] then none
  else exponent?.map fun exponent => ⟨ofDigits (whole ++ fraction), exponent - fraction.length⟩

/-- A number without its sign: a decimal notation, or the name of infinity or of NaN in any case of
letters. -/
def readMagnitude? (negative : Bool) (cs : List Char) : Option Double :=
  match readDecimal? cs with
  | some d => some (.ofDecimal negative d)
  | none =>
    let name := String.ofList (cs.map Char.toLower)
    if name = "inf" ∨ name = "infinity" then some (.infinite negative)
    else if name = "nan" then some .notANumber
    else none

/-- **A number read from text**, rounded to the nearest; the whole text has to be the number. -/
def Double.read? : List Char → Option Double
  | '-' :: cs => readMagnitude? true cs
  | '+' :: cs => readMagnitude? false cs
  | cs => readMagnitude? false cs

end Pushdown.Number
