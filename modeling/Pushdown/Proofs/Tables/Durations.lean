import Mathlib.Data.List.TakeWhile
import Pushdown.Proofs.Number.Digits
import Pushdown.Proofs.Rows.Filter
import Pushdown.Tables.VideoResource

/-!
# What the text of a length of time keeps

A length of time comes as hours, minutes and seconds, each a number in front of its unit, and any of
the three may be left out. The text that it becomes keeps the numbers and drops the units. So it
says which numbers are written and in which order (`durationText_text`), and nothing about what they
count: where units are left out, a number slides into the place of another unit.

Read as a clock, each number worth sixty of the next, the text gives the length back exactly if no
number but zero has slid, which is `WrittenLength.IsFlush`. The statements on all of this are
collected in `durationText_eq_iff`.
-/

namespace Pushdown.VideoSite

open Number

/-! ### Specification -/

/-- A decimal number as it is written. -/
def IsDecimal (digits : List Char) : Prop := digits ≠ [] ∧ ∀ c ∈ digits, c.isDigit = true

/-- **A length of time as it is written.** Hours, minutes and seconds may each be left out, but not
all of them. -/
structure WrittenLength where
  /-- The digits of the hours. -/
  hours : Option (List Char)
  /-- The digits of the minutes. -/
  minutes : Option (List Char)
  /-- The digits of the seconds. -/
  seconds : Option (List Char)
  isDecimal : ∀ digits ∈ hours.toList ++ minutes.toList ++ seconds.toList, IsDecimal digits
  isWritten : hours.toList ++ minutes.toList ++ seconds.toList ≠ []
  minutes_lt : ∀ digits ∈ minutes, ofDigits digits < 60
  seconds_lt : ∀ digits ∈ seconds, ofDigits digits < 60

namespace WrittenLength

/-- A number in front of its unit. -/
def part (unit : Char) : Option (List Char) → List Char
  | some digits => digits ++ [unit]
  | none => []

/-- The value of a number; what is left out counts for nothing. -/
def value : Option (List Char) → Nat
  | some digits => ofDigits digits
  | none => 0

variable (d : WrittenLength)

/-- The text that is written. -/
def text : String :=
  String.ofList ('P' :: 'T' :: (part 'H' d.hours ++ (part 'M' d.minutes ++ part 'S' d.seconds)))

/-- The numbers that are written, in order. -/
def numbers : List (List Char) := d.hours.toList ++ d.minutes.toList ++ d.seconds.toList

/-- Which units are written: hours, minutes, seconds. -/
def units : Bool × Bool × Bool := (d.hours.isSome, d.minutes.isSome, d.seconds.isSome)

/-- The length in seconds. -/
def total : Nat := 60 * (60 * value d.hours + value d.minutes) + value d.seconds

/-- **No unit is left out behind a number other than zero.** -/
def IsFlush : Prop :=
  (d.minutes = none → value d.hours = 0) ∧
    (d.seconds = none → value d.hours = 0 ∧ value d.minutes = 0)

end WrittenLength

/-- Numbers as a clock shows them, each worth sixty of the next. -/
def clockTotal (numbers : List Nat) : Nat := numbers.foldl (fun total n => 60 * total + n) 0

/-- **A text read as a clock**: numbers between colons. -/
def readClock? (s : String) : Option Nat :=
  ((Text.splitOn ':' s.toList).mapM readNat?).map clockTotal

/-! ### Reading the parts -/

section

open WrittenLength

variable {unit other : Char} {digits rest : List Char} {n : Option (List Char)}

theorem isDecimalDigit_of_isDigit {c : Char} (h : c.isDigit = true) :
    Text.isDecimalDigit c = true := by
  -- digits are all in the range where both tests agree
  have hascii : c.toNat < 0x80 := by
    have hbounds := toNat_of_isDigit h
    omega
  rw [Text.isDecimalDigit_of_ascii hascii, h]

/-- Digits in front of a unit end at the unit. -/
theorem span_unit (hdigits : IsDecimal digits) (hunit : Text.isDecimalDigit unit = false)
    (rest : List Char) :
    (digits ++ unit :: rest).takeWhile Text.isDecimalDigit = digits ∧
      (digits ++ unit :: rest).dropWhile Text.isDecimalDigit = unit :: rest := by
  -- the unit is the first character that is no digit
  have hall : ∀ c ∈ digits, Text.isDecimalDigit c = true :=
    fun c hc => isDecimalDigit_of_isDigit (hdigits.2 c hc)
  have hneg : ¬ Text.isDecimalDigit unit = true := by simp [hunit]
  rw [List.takeWhile_append_of_pos hall, List.dropWhile_append_of_pos hall,
    List.takeWhile_cons_of_neg hneg, List.dropWhile_cons_of_neg hneg, List.append_nil]
  exact ⟨rfl, rfl⟩

/-- The first character behind digits is not that of a unit. -/
def OpensOther (unit : Char) (cs : List Char) : Prop :=
  (cs.dropWhile Text.isDecimalDigit).head? ≠ some unit

theorem opensOther_nil : OpensOther unit [] := nofun

theorem opensOther_part (hn : ∀ digits ∈ n, IsDecimal digits)
    (hother : Text.isDecimalDigit other = false) (hne : other ≠ unit)
    (hrest : OpensOther unit rest) : OpensOther unit (part other n ++ rest) := by
  cases n with
  | none => exact hrest
  -- behind the digits stands the other unit
  | some digits =>
    unfold OpensOther
    rw [part, List.append_assoc, List.singleton_append, (span_unit (hn digits rfl) hother rest).2]
    exact fun h => hne (Option.some.inj h)

/-- **A part is read as it is written**, if what is behind it is none of the same unit. -/
theorem component_part (hn : ∀ digits ∈ n, IsDecimal digits)
    (hunit : Text.isDecimalDigit unit = false) (hrest : OpensOther unit rest) :
    component unit (part unit n ++ rest) = (n, rest) := by
  -- without a number the part is empty, and what follows belongs to other units
  cases n with
  | none =>
    rw [part, List.nil_append]
    unfold component
    unfold OpensOther at hrest
    cases hdrop : rest.dropWhile Text.isDecimalDigit with
    | nil => rfl
    | cons c more =>
      rw [hdrop] at hrest
      exact if_neg fun hc => hrest (congrArg some hc.1)
  | some digits =>
    obtain ⟨htake, hdrop⟩ := span_unit (hn digits rfl) hunit rest
    -- digits and then the unit, which is what `component` looks for
    have hdigits : (!digits.isEmpty) = true := by
      rw [Bool.not_eq_true', List.isEmpty_eq_false_iff]
      exact (hn digits rfl).1
    rw [part, List.append_assoc, List.singleton_append]
    unfold component
    dsimp only
    rw [htake, hdrop]
    exact if_pos ⟨rfl, hdigits⟩

end

/-! ### What is rendered -/

variable {a b : WrittenLength}

theorem durationParts?_text (d : WrittenLength) :
    durationParts? d.text.toList = some d.numbers := by
  -- each part that is there is a number as it is written
  have hdecimal (n : Option (List Char)) (hn : n.toList ⊆ d.numbers) :
      ∀ digits ∈ n, IsDecimal digits := by
    intro digits hdigits
    exact d.isDecimal digits (hn (Option.mem_toList.2 hdigits))
  have hhours := hdecimal d.hours (by simp [WrittenLength.numbers])
  have hminutes := hdecimal d.minutes (by simp [WrittenLength.numbers])
  have hseconds := hdecimal d.seconds (by simp [WrittenLength.numbers])
  have hH : Text.isDecimalDigit 'H' = false := by decide +kernel
  have hM : Text.isDecimalDigit 'M' = false := by decide +kernel
  have hS : Text.isDecimalDigit 'S' = false := by decide +kernel
  -- from the last part to the first: none of the units behind a part is its own
  have hlast : component 'S' (WrittenLength.part 'S' d.seconds ++ []) = (d.seconds, []) :=
    component_part hseconds hS opensOther_nil
  have hbehind (unit : Char) (hne : 'S' ≠ unit) :
      OpensOther unit (WrittenLength.part 'S' d.seconds) := by
    rw [← List.append_nil (WrittenLength.part 'S' d.seconds)]
    exact opensOther_part hseconds hS hne opensOther_nil
  have hmiddle := component_part hminutes hM (hbehind 'M' (by decide))
  have hfirst := component_part hhours hH
    (opensOther_part hminutes hM (by decide) (hbehind 'H' (by decide)))
  rw [List.append_nil] at hlast
  rw [WrittenLength.text, String.toList_ofList]
  simp only [durationParts?, hfirst, hmiddle, hlast]
  rfl

theorem toList_durationText_text (d : WrittenLength) :
    (durationText d.text).toList = [':'].intercalate d.numbers := by
  -- the numbers are put together again, with colons between
  unfold durationText
  rw [durationParts?_text]
  exact Text.toList_intercalate_ofList ":" d.numbers

/-- **The text gives the numbers back**, each for itself. -/
theorem splitOn_durationText_text (d : WrittenLength) :
    Text.splitOn ':' (durationText d.text).toList = d.numbers := by
  rw [toList_durationText_text]
  refine Text.splitOn_intercalate d.isWritten fun digits hdigits hcolon => ?_
  -- a colon is no digit
  exact absurd ((d.isDecimal digits hdigits).2 ':' hcolon) (by decide)

theorem durationText_text_eq_iff_numbers :
    durationText a.text = durationText b.text ↔ a.numbers = b.numbers := by
  constructor
  · intro h
    rw [← splitOn_durationText_text a, ← splitOn_durationText_text b, h]
  · intro h
    apply String.toList_injective
    rw [toList_durationText_text, toList_durationText_text, h]

theorem eq_of_toList_append {n n' : Option (List Char)} {rest rest' : List (List Char)}
    (hsome : n.isSome = n'.isSome) (h : n.toList ++ rest = n'.toList ++ rest') :
    n = n' ∧ rest = rest' := by
  cases n <;> cases n' <;> simp_all

/-- Numbers and units together are all that is written. -/
theorem total_eq_of_numbers (hnumbers : a.numbers = b.numbers) (hunits : a.units = b.units) :
    a.total = b.total := by
  unfold WrittenLength.numbers at hnumbers
  -- part by part from the front: where the same units are written, the same numbers are
  rw [List.append_assoc, List.append_assoc] at hnumbers
  simp only [WrittenLength.units, Prod.mk.injEq] at hunits
  obtain ⟨hhours, hbehind⟩ := eq_of_toList_append hunits.1 hnumbers
  obtain ⟨hminutes, hlast⟩ := eq_of_toList_append hunits.2.1 hbehind
  have hseconds := (eq_of_toList_append hunits.2.2 (congrArg (· ++ []) hlast)).1
  rw [WrittenLength.total, WrittenLength.total, hhours, hminutes, hseconds]

/-! ### The text as a clock -/

theorem mapM_readNat? {pieces : List (List Char)} (h : ∀ digits ∈ pieces, IsDecimal digits) :
    pieces.mapM readNat? = some (pieces.map ofDigits) := by
  -- every piece is a number, so none fails
  induction pieces with
  | nil => rfl
  | cons digits pieces ih =>
    obtain ⟨⟨hne, hdigits⟩, hpieces⟩ := List.forall_mem_cons.1 h
    have hread : readNat? digits = some (ofDigits digits) :=
      if_pos ⟨hne, List.all_eq_true.2 hdigits⟩
    rw [List.mapM_cons, hread, ih hpieces]
    rfl

theorem readClock?_durationText_text (d : WrittenLength) :
    readClock? (durationText d.text) = some (clockTotal (d.numbers.map ofDigits)) := by
  have hnumbers : ∀ digits ∈ d.numbers, IsDecimal digits := d.isDecimal
  rw [readClock?, splitOn_durationText_text, mapM_readNat? hnumbers]
  rfl

/-- **The clock shows the length** exactly where no number but zero has slid. -/
theorem clockTotal_numbers_eq_iff (d : WrittenLength) :
    clockTotal (d.numbers.map ofDigits) = d.total ↔ d.IsFlush := by
  unfold clockTotal WrittenLength.numbers WrittenLength.total WrittenLength.IsFlush
  have hwritten := d.isWritten
  -- one equation for each choice of units; a number that has slid counts for too little
  cases hhours : d.hours <;> cases hminutes : d.minutes <;> cases hseconds : d.seconds <;>
    simp [hhours, hminutes, hseconds, WrittenLength.value] at hwritten ⊢ <;> omega

/-- **Two different lengths have the same text exactly if the same numbers are written for other
units.** The text read as a clock is the length if and only if no unit is left out behind a number
other than zero, and among such lengths different ones have different texts. -/
theorem durationText_eq_iff (h : a.total ≠ b.total) :
    (durationText a.text = durationText b.text ↔ a.numbers = b.numbers ∧ a.units ≠ b.units) ∧
    (∀ d : WrittenLength, readClock? (durationText d.text) = some d.total ↔ d.IsFlush) ∧
    (a.IsFlush → b.IsFlush → durationText a.text ≠ durationText b.text) := by
  have hclock (d : WrittenLength) :
      readClock? (durationText d.text) = some d.total ↔ d.IsFlush := by
    rw [readClock?_durationText_text, Option.some_inj, clockTotal_numbers_eq_iff]
  refine ⟨?_, hclock, fun ha hb heq => ?_⟩
  · -- with the same numbers the same units would make the same length
    rw [durationText_text_eq_iff_numbers]
    constructor
    · intro hnumbers
      exact ⟨hnumbers, fun hunits => h (total_eq_of_numbers hnumbers hunits)⟩
    · exact fun hsame => hsame.1
  · -- the clock shows both lengths as they are, so the same text shows the same length
    have htotal : some a.total = some b.total := by
      rw [← (hclock a).2 ha, heq, (hclock b).2 hb]
    exact h (Option.some.inj htotal)

/-- An hour and two minutes, with nothing about seconds. -/
def hourAndTwoMinutes : WrittenLength where
  hours := some ['1']
  minutes := some ['2']
  seconds := none
  isDecimal := by simp [IsDecimal]
  isWritten := by decide
  minutes_lt := by decide
  seconds_lt := by decide

/-- A minute and two seconds. -/
def minuteAndTwoSeconds : WrittenLength where
  hours := none
  minutes := some ['1']
  seconds := some ['2']
  isDecimal := by simp [IsDecimal]
  isWritten := by decide
  minutes_lt := by decide
  seconds_lt := by decide

/-- Both become the same text, and the clock that it shows is right about the second alone. -/
theorem durationText_eq_iff_hourAndTwoMinutes :
    hourAndTwoMinutes.total ≠ minuteAndTwoSeconds.total ∧
    durationText hourAndTwoMinutes.text = durationText minuteAndTwoSeconds.text ∧
    readClock? (durationText minuteAndTwoSeconds.text) = some minuteAndTwoSeconds.total ∧
    readClock? (durationText hourAndTwoMinutes.text) ≠ some hourAndTwoMinutes.total := by
  have h : hourAndTwoMinutes.total ≠ minuteAndTwoSeconds.total := by decide
  -- the seconds are there in the one, and left out behind two minutes in the other
  obtain ⟨hsame, hclock, -⟩ := durationText_eq_iff h
  have hflush : minuteAndTwoSeconds.IsFlush := ⟨nofun, nofun⟩
  have hnot : ¬ hourAndTwoMinutes.IsFlush := fun hflush => absurd (hflush.2 rfl).1 (by decide)
  exact ⟨h, hsame.2 ⟨rfl, by decide⟩, (hclock _).2 hflush, fun hread => hnot ((hclock _).1 hread)⟩

/-- **Different lengths need not have different texts.** -/
theorem durationText_not_injective :
    hourAndTwoMinutes.text = "PT1H2M" ∧ hourAndTwoMinutes.total = 3720 ∧
    minuteAndTwoSeconds.text = "PT1M2S" ∧ minuteAndTwoSeconds.total = 62 ∧
    durationText "PT1H2M" = "1:2" ∧ durationText "PT1M2S" = "1:2" := by
  decide +kernel

end Pushdown.VideoSite
