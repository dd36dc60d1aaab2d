import Pushdown.Proofs.Order.Clash
import Pushdown.Rows.Unification

/-!
# Which rows an order compares lawfully

A sort relies on its comparison to be a total preorder. That of rows goes through the keys of an
order, so it is one if every key orders its column lawfully (`lawfulOn_compareRows`), and for a
single key it is one only then. Together with the cells that a type orders this is the main
statement, `compareRows_lawful_iff`: turning two rows round always turns the answer round, and all
orders by some keys are transitive exactly if in none of their columns three cells clash.

Cells of any kind get into a column of numbers, moments or documents, so the condition is no
formality: `compareRows_cycle` has three rows of an integer column that go round in a circle.
-/

namespace Pushdown

variable {order : List TypedKey} {keys : Set TypedKey} {rows : Set Record}

/-- **Two rows turned round turn the answer round**, whatever the keys. -/
theorem compareRows_swap (hsound : ∀ k ∈ order, ∀ row ∈ rows, (k.cell row).Sound)
    {a b : Record} (ha : a ∈ rows) (hb : b ∈ rows) :
    compareRows order b a = (compareRows order a b).swap := by
  -- key by key, as the second is asked where the first finds two rows equal
  induction order with
  | nil => rfl
  | cons k order ih =>
    have hk := hsound k List.mem_cons_self
    rw [compareRows, compareRows, Ordering.swap_then,
      orderCells_swap (hk a ha).wellFormed (hk b hb).wellFormed,
      ih fun k' hk' => hsound k' (List.mem_cons_of_mem k hk')]

/-- **Keys that order their columns lawfully** order rows lawfully. -/
theorem lawfulOn_compareRows
    (h : ∀ k ∈ order, LawfulOn (orderCells k.type k.direction) (k.cell '' rows)) :
    LawfulOn (compareRows order) rows := by
  induction order with
  | nil => exact LawfulOn.of_eq fun _ _ _ _ => rfl
  | cons k order ih =>
    -- the first key compares rows as their cells, and the others follow where these are equal
    have hfirst := (h k List.mem_cons_self).comap fun row hrow => Set.mem_image_of_mem k.cell hrow
    exact hfirst.lexicographic (ih fun k' hk' => h k' (List.mem_cons_of_mem k hk'))

/-- A single key orders rows as it orders the cells of its column. -/
theorem lawfulOn_single_iff {k : TypedKey} :
    LawfulOn (compareRows [k]) rows ↔
      LawfulOn (orderCells k.type k.direction) (k.cell '' rows) := by
  -- the keys behind it are none, so only the first answer is left
  have hrows (a b : Record) :
      compareRows [k] a b = orderCells k.type k.direction (k.cell a) (k.cell b) :=
    Ordering.then_eq
  constructor
  · intro h
    constructor
    · rintro _ ⟨a, ha, rfl⟩ _ ⟨b, hb, rfl⟩
      rw [← hrows, ← hrows]
      exact h.swap a ha b hb
    · rintro _ ⟨a, ha, rfl⟩ _ ⟨b, hb, rfl⟩ _ ⟨c, hc, rfl⟩
      rw [← hrows, ← hrows, ← hrows]
      exact h.trans a ha b hb c hc
  · intro h
    refine lawfulOn_compareRows fun k' hk' => ?_
    rwa [List.mem_singleton.1 hk']

/-- **Orders of rows are lawful exactly where no cells clash.** Whatever the rows, turning two of
them round turns the answer round. All orders by some keys are total preorders on the rows exactly
if the rows have no three cells in the column of one of the keys that its type does not order. -/
theorem compareRows_lawful_iff (hsound : ∀ k ∈ keys, ∀ row ∈ rows, (k.cell row).Sound) :
    (∀ order : List TypedKey, (∀ k ∈ order, k ∈ keys) → ∀ a ∈ rows, ∀ b ∈ rows,
      compareRows order b a = (compareRows order a b).swap) ∧
    ((∀ order : List TypedKey, (∀ k ∈ order, k ∈ keys) → LawfulOn (compareRows order) rows) ↔
      ∀ k ∈ keys, ∀ a ∈ rows, ∀ b ∈ rows, ∀ c ∈ rows,
        ¬ Clash k.type (k.cell a) (k.cell b) (k.cell c)) := by
  -- every cell of a column is that of some row, which is sound
  have hcells (k : TypedKey) (hk : k ∈ keys) : ∀ v ∈ k.cell '' rows, v.Sound := by
    rintro _ ⟨row, hrow, rfl⟩
    exact hsound k hk row hrow
  refine ⟨fun order hkeys a ha b hb =>
    compareRows_swap (fun k hk => hsound k (hkeys k hk)) ha hb, ?_, ?_⟩
  · intro h k hk a ha b hb c hc
    -- a clash in one column already shows in the order by that column alone
    have hsingle := lawfulOn_single_iff.1 (h [k] fun k' hk' => List.mem_singleton.1 hk' ▸ hk)
    exact (lawfulOn_orderCells_iff (hcells k hk)).1 hsingle _ ⟨a, ha, rfl⟩ _ ⟨b, hb, rfl⟩ _
      ⟨c, hc, rfl⟩
  · intro h order hkeys
    refine lawfulOn_compareRows fun k hk => (lawfulOn_orderCells_iff (hcells k (hkeys k hk))).2 ?_
    rintro _ ⟨a, ha, rfl⟩ _ ⟨b, hb, rfl⟩ _ ⟨c, hc, rfl⟩
    exact h k (hkeys k hk) a ha b hb c hc

/-- Numbers and texts that write numbers are ordered lawfully together. -/
theorem compareRows_lawful_on_numbers :
    LawfulOn (compareRows [⟨"n", .descending, .integer⟩])
      {[("n", .ofInt 10)], [("n", .string "9")], [("n", .string "1e1")]} := by
  have hkey : ∀ k ∈ ({⟨"n", .descending, .integer⟩} : Set TypedKey), ∀ row ∈
      ({[("n", .ofInt 10)], [("n", .string "9")], [("n", .string "1e1")]} : Set Record),
      (k.cell row).Sound ∧ k.type.isNumeric = true ∧ (numberKey? (k.cell row)).isSome = true := by
    -- all three write numbers, so each of them has a place
    rintro k rfl row (rfl | rfl | rfl)
    · exact ⟨⟨trivial, nofun⟩, rfl, by decide +kernel⟩
    · exact ⟨⟨trivial, nofun⟩, rfl, by decide +kernel⟩
    · exact ⟨⟨trivial, nofun⟩, rfl, by decide +kernel⟩
  refine (compareRows_lawful_iff fun k hk row hrow => (hkey k hk row hrow).1).2.2 ?_ _ ?_
  · -- the middle cell alone decides that there is no clash
    intro k hk a _ b hb c _
    obtain ⟨-, hnumeric, hplace⟩ := hkey k hk b hb
    exact not_clash_of_numberKey? hnumeric hplace
  · intro k hk
    exact List.mem_singleton.1 hk

/-- Three records of an integer column: ten is not greater than `1x` by kind, `1x` is not greater
than `9` by text, and ten is greater than `9`. -/
theorem compareRows_cycle :
    ∃ a b c, Shape.unify ⟨⟨"t", [.output "n" .integer]⟩, none⟩
        [.object [("n", .ofInt 10)], .object [("n", .string "1x")], .object [("n", .string "9")]] =
          .ok [a, b, c] ∧
      compareRows [⟨"n", .ascending, .integer⟩] a b ≠ .gt ∧
      compareRows [⟨"n", .ascending, .integer⟩] b c ≠ .gt ∧
      compareRows [⟨"n", .ascending, .integer⟩] a c = .gt :=
  ⟨[("n", .ofInt 10)], [("n", .string "1x")], [("n", .string "9")], by decide +kernel,
    by decide +kernel, by decide +kernel, by decide +kernel⟩

end Pushdown
