import Pushdown.Number.Decimal

/-!
# Moments in text

A moment is written as a date, a time of day and an offset from universal time, in the form of
RFC 3339: `2024-01-02T03:04:05.678+01:00`. Two texts can write one moment in different ways, so
moments are compared by the seconds since a fixed day, in universal time, and the nanoseconds
within the second. A leap second is the second before it, drawn out: its nanoseconds start at a
thousand million.

The calendar is the Gregorian one carried back to the year zero. Main statement: a day's number is
the number of days before its year, plus those before its month, plus those before it.
-/

namespace Pushdown.Time

open Number

/-! ### The calendar -/

/-- A year with a twenty-ninth of February. -/
def isLeapYear (year : Nat) : Bool := year % 4 == 0 && (year % 100 != 0 || year % 400 == 0)

/-- The number of days in each month. -/
def monthLengths (year : Nat) : List Nat :=
  [31, if isLeapYear year then 29 else 28, 31, 30, 31, 30, 31, 31, 30, 31, 30, 31]

/-- How many years before this one have a leap day. -/
def leapDaysBefore (year : Nat) : Nat := (year + 3) / 4 - (year + 99) / 100 + (year + 399) / 400

/-- **The number of a day**, counted from the first day of the year zero; there is none for a date
that is not in the calendar. -/
def dayNumber? (year month day : Nat) : Option Nat :=
  if 1 ≤ month ∧ 1 ≤ day then
    match (monthLengths year)[month - 1]? with
    | some length =>
      if day ≤ length then
        let before := ((monthLengths year).take (month - 1)).foldl (· + ·) 0
        some (365 * year + leapDaysBefore year + before + (day - 1))
      else none
    | none => none
  else none

/-! ### Moments -/

/-- **A moment in universal time.** -/
structure Instant where
  /-- Seconds since the first day of the year zero. -/
  seconds : Int
  /-- Nanoseconds within the second; a leap second has a thousand million of them and more. -/
  nanoseconds : Nat
  deriving DecidableEq, Repr

/-- Moments are compared by their seconds, then by their nanoseconds. -/
def Instant.compare (a b : Instant) : Ordering :=
  (Ord.compare a.seconds b.seconds).then (Ord.compare a.nanoseconds b.nanoseconds)

/-! ### Reading -/

/-- Exactly `n` digits at the start of a text, as a number, and the rest. -/
def digits? (n : Nat) (cs : List Char) : Option (Nat × List Char) :=
  let taken := cs.take n
  if taken.length = n ∧ taken.all Char.isDigit then some (ofDigits taken, cs.drop n) else none

/-- What follows a character. -/
def after? (c : Char) : List Char → Option (List Char)
  | d :: cs => if d = c then some cs else none
  | [] => none

/-- What follows the mark between date and time: a letter `T` or a space. -/
def afterDateMark? : List Char → Option (List Char)
  | c :: cs => if c = 'T' ∨ c = 't' ∨ c = ' ' then some cs else none
  | [] => none

/-- **Nanoseconds from a fraction of a second**, none if there is no fraction. A point has at least
one digit behind it, and digits after the ninth do not count. -/
def fraction? : List Char → Option (Nat × List Char)
  | '.' :: cs =>
    let digits := cs.takeWhile Char.isDigit
    if digits.isEmpty then none
    else
      let kept := digits.take 9
      some (ofDigits kept * tenPower (9 - kept.length), cs.dropWhile Char.isDigit)
  | cs => some (0, cs)

/-- The sign of an offset: plus, minus, or the minus of typography. -/
def offsetSign? : List Char → Option (Int × List Char)
  | '+' :: cs => some (1, cs)
  | '-' :: cs => some (-1, cs)
  | '\u2212' :: cs => some (-1, cs)
  | _ => none

/-- **Seconds of an offset from universal time**, less than a day either way; the letter `Z` is no
offset. The offset ends the text. -/
def offset? (cs : List Char) : Option Int :=
  match cs with
  | ['Z'] => some 0
  | ['z'] => some 0
  | cs => do
    let (sign, cs) ← offsetSign? cs
    let (hours, cs) ← digits? 2 cs
    let cs ← after? ':' cs
    let (minutes, cs) ← digits? 2 cs
    if cs.isEmpty && hours < 24 && minutes < 60 then
      return sign * ((3600 * hours + 60 * minutes : Nat) : Int)
    else none

/-- **The moment that a text writes.** -/
def Instant.read? (cs : List Char) : Option Instant := do
  let (year, cs) ← digits? 4 cs
  let cs ← after? '-' cs
  let (month, cs) ← digits? 2 cs
  let cs ← after? '-' cs
  let (day, cs) ← digits? 2 cs
  let cs ← afterDateMark? cs
  let (hour, cs) ← digits? 2 cs
  let cs ← after? ':' cs
  let (minute, cs) ← digits? 2 cs
  let cs ← after? ':' cs
  let (second, cs) ← digits? 2 cs
  let (nanoseconds, cs) ← fraction? cs
  let offset ← offset? cs
  let number ← dayNumber? year month day
  if hour < 24 && minute < 60 && second ≤ 60 then
    -- the sixtieth second is the fifty-ninth with more nanoseconds than a second has
    let isLeap := second == 60
    let clock : Nat := 86400 * number + 3600 * hour + 60 * minute + (if isLeap then 59 else second)
    return ⟨(clock : Int) - offset, nanoseconds + if isLeap then 1000000000 else 0⟩
  else none

end Pushdown.Time
