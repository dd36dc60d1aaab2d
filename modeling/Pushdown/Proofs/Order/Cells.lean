import Pushdown.Proofs.Order.Patched
import Pushdown.Proofs.Order.Sameness
import Pushdown.Rows.Compare

/-!
# How the types compare cells

Each type compares the cells that it can. The lemmas here say how, in terms of keys that cells have
or have not, of comparisons patched by a fallback, and of grades.

* **Numbers and truth values** compare by a key (`compareNumbers?_eq`, `compareValues?_boolean`).
* **Moments** compare by a key too, but the fallback is inside the type: two texts of which one
  writes no moment are compared as texts (`compareMoments_bareText`).
* **Documents** come in grades, with truth values below numbers and texts, and these below arrays
  and objects. Two containers compare only if they are the same. Numbers and texts compare by the
  numbers that they write, except for two texts; this is the comparison of texts, patched by the
  places among the numbers (`orderDocuments_of_grade_eq_one`), with the part and the fallback the
  other way round than one would expect.

A cell is assumed to be `Json.Sound`, as every value is that a reader delivers: without distinct
keys in objects, sameness would not be symmetric, and a number that is none would be equal to
nothing.
-/

namespace Pushdown

open Number

/-! ### Sound values -/

/-- **A value that a reader delivers.** -/
structure Json.Sound (v : Json) : Prop where
  /-- The keys of objects are distinct. -/
  wellFormed : v.WellFormed
  /-- A number is finite. -/
  finite : ∀ x, v = .number (.float x) → x.isFinite = true

/-- The number nearest to an integer is a number. -/
theorem Number.Double.isNaN_ofInt (i : Int) : (Double.ofInt i).isNaN = false := by
  have hle : BinaryFormat.double.nearest i.natAbs 1 ≤ BinaryFormat.double.infinity := by
    unfold BinaryFormat.nearest
    -- zero has a pattern of its own, any other integer one that is cut off at infinity
    split
    · exact Nat.zero_le _
    · exact Nat.min_le_right _ _
  exact decide_eq_false (Nat.not_lt_of_le hle)

theorem Json.Sound.isNaN_toDouble {n : JsonNumber} (h : (Json.number n).Sound) :
    n.toDouble.isNaN = false := by
  cases n with
  | int i => exact Double.isNaN_ofInt i
  | float x =>
    have hlt : x.magnitude < BinaryFormat.double.infinity := of_decide_eq_true (h.finite x rfl)
    exact decide_eq_false (Nat.not_lt_of_le hlt.le)

/-! ### Keys of cells -/

/-- The place of a cell among the numbers, if it is one or writes one. -/
def numberKey? (v : Json) : Option Int :=
  (asNumber? v).bind fun x => if x.isNaN then none else some x.key

/-- The moment that a cell writes, if it writes one. -/
def Json.instant? (v : Json) : Option Time.Instant := Time.Instant.read? v.bareText.toList

/-- Cells compared by their texts. -/
def orderTexts (a b : Json) : Ordering := compareTexts a.bareText b.bareText

/-- Cells compared by their places among the numbers; what has none comes last. -/
def orderPlaces (a b : Json) : Ordering :=
  (compare (numberKey? a).isNone.toNat (numberKey? b).isNone.toNat).then
    (compare ((numberKey? a).getD 0) ((numberKey? b).getD 0))

section Lawful

variable {s : Set Json}

theorem lawfulOn_compareTexts {t : Set String} : LawfulOn compareTexts t := LawfulOn.compareBy id

theorem lawfulOn_compareBools {t : Set Bool} : LawfulOn compareBools t :=
  LawfulOn.compareBy Bool.toNat

theorem lawfulOn_instants {t : Set Time.Instant} : LawfulOn Time.Instant.compare t :=
  (LawfulOn.compareBy Time.Instant.seconds).lexicographic
    (LawfulOn.compareBy Time.Instant.nanoseconds)

theorem lawfulOn_orderTexts : LawfulOn orderTexts s := LawfulOn.compareBy Json.bareText

theorem lawfulOn_orderPlaces : LawfulOn orderPlaces s :=
  (LawfulOn.compareBy fun v => (numberKey? v).isNone.toNat).lexicographic
    (LawfulOn.compareBy fun v => (numberKey? v).getD 0)

theorem lawfulOn_compareByKind : LawfulOn compareByKind s :=
  (LawfulOn.compareBy kindRank).lexicographic lawfulOn_orderTexts

end Lawful

/-! ### The types -/

/-- Numbers compare by their places. -/
theorem compareNumbers?_eq : compareNumbers? = keyed numberKey? compare := by
  funext a b
  unfold compareNumbers? keyed numberKey?
  cases asNumber? a with
  | none => rfl
  | some x =>
    cases asNumber? b with
    -- without a second number only a first that is none matters, and it has no key either
    | none => cases hx : x.isNaN <;> simp [hx]
    | some y =>
      -- both are there: whether one of them is no number decides whether they compare
      simp only [Option.bind_some, Double.compare?]
      cases x.isNaN <;> cases y.isNaN <;> rfl

/-- Truth values compare as such. -/
theorem compareValues?_boolean : compareValues? .boolean = keyed asBool? compareBools := by
  funext a b
  unfold compareValues? keyed
  dsimp only
  cases asBool? a with
  | none => rfl
  | some x => cases asBool? b <;> rfl

/-- Moments compare as such, and as texts where one of the two is none. -/
theorem compareMoments_bareText (a b : Json) :
    compareMoments a.bareText b.bareText =
      patched (keyed Json.instant? Time.Instant.compare) orderTexts a b := by
  unfold compareMoments patched keyed Json.instant?
  cases Time.Instant.read? a.bareText.toList with
  | none => rfl
  | some x => cases Time.Instant.read? b.bareText.toList <;> rfl

/-! ### Documents -/

/-- The rank of a value among documents: numbers and texts compare with each other, and so may two
containers. -/
def documentGrade : Json → Nat
  | .bool _ => 0
  | .number _ => 1
  | .string _ => 1
  | .array _ => 2
  | .object _ => 2
  | .null => 3

theorem compareDocuments?_swap {a b : Json} (ha : a.WellFormed) (hb : b.WellFormed) :
    compareDocuments? b a = (compareDocuments? a b).map Ordering.swap := by
  -- turned round the keys are compared the other way
  have hnumbers (a b : Json) : compareNumbers? b a = (compareNumbers? a b).map Ordering.swap := by
    rw [compareNumbers?_eq]
    exact keyed_swap (LawfulOn.compareBy id) numberKey? a b
  have hsame : (if b.same a then some Ordering.eq else none) =
      (if a.same b then some Ordering.eq else none).map Ordering.swap := by
    -- sameness is symmetric, but only where keys are distinct
    have hcomm : b.same a = a.same b :=
      Bool.eq_iff_iff.2 ⟨Json.same_symm b a hb ha, Json.same_symm a b ha hb⟩
    rw [hcomm]
    cases a.same b <;> rfl
  cases a <;> cases b
  case number.number m n =>
    simp only [compareDocuments?]
    exact hnumbers (.number m) (.number n)
  case number.string | string.number => exact hnumbers _ _
  case string.string => exact congrArg some (lawfulOn_compareTexts.swap_of_univ _ _)
  case bool.bool => exact congrArg some (lawfulOn_compareBools.swap_of_univ _ _)
  -- all others compare only if they are the same
  all_goals exact hsame

/-- A greater grade decides. -/
theorem orderDocuments_of_grade_lt {a b : Json} (h : documentGrade a < documentGrade b) :
    patched compareDocuments? compareByKind a b = .lt := by
  -- by the kinds of both: all other pairs are ruled out by their grades
  cases a <;> cases b <;> first | rfl | simp [documentGrade] at h

/-- Containers compare only if they are the same. -/
theorem compareDocuments?_of_isContainer {a b : Json} (ha : a.isContainer = true)
    (hb : b.isContainer = true) :
    compareDocuments? a b = if a.same b then some .eq else none := by
  cases a <;> cases b <;> first | rfl | simp [Json.isContainer] at ha hb

theorem numberKey?_number {n : JsonNumber} (h : (Json.number n).Sound) :
    numberKey? (.number n) = some n.toDouble.key := by
  change (if n.toDouble.isNaN then none else some n.toDouble.key) = _
  rw [h.isNaN_toDouble]
  rfl

/-- **Numbers and texts** compare by their places, except for two texts. -/
theorem orderDocuments_of_grade_eq_one {a b : Json} (ha : a.Sound) (hb : b.Sound)
    (hga : documentGrade a = 1) (hgb : documentGrade b = 1) :
    patched compareDocuments? compareByKind a b =
      patched (keyed Json.string? compareTexts) orderPlaces a b := by
  cases a <;> cases b
  case number.number m n =>
    -- both have a place, so the comparison of places is that of the numbers
    simp only [patched, compareDocuments?, compareNumbers?_eq, keyed, orderPlaces,
      numberKey?_number ha, numberKey?_number hb]
    rfl
  case number.string m t =>
    -- a text that writes no number has no place, and a number comes before it by its kind too
    simp only [patched, compareDocuments?, compareNumbers?_eq, keyed, orderPlaces,
      numberKey?_number ha]
    cases numberKey? (.string t) <;> rfl
  case string.number s n =>
    simp only [patched, compareDocuments?, compareNumbers?_eq, keyed, orderPlaces,
      numberKey?_number hb]
    cases numberKey? (.string s) <;> rfl
  -- two texts compare as texts on both sides
  case string.string s t => rfl
  all_goals simp [documentGrade] at hga hgb

end Pushdown
