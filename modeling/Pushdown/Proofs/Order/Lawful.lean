import Mathlib.Data.Set.Basic

/-!
# Comparisons that are lawful on some values

A sort may ask its comparison for any two values it is given, in either order, and it relies on the
answers fitting together. `LawfulOn cmp s` says that they do on the values of `s`: turning two
values round turns the answer round, and "not greater" is transitive. So `cmp` is a total preorder
there. A comparison can be lawful on the rows of one list and not on all rows, which is why the set
is part of the notion.

The library's `Std.TransOrd` says the same of a whole type, so comparing by what a function into
such a type gives is lawful on any values (`LawfulOn.compareBy`). New lawful comparisons come from
old ones by turning round (`LawfulOn.reversed`), by going on with a second comparison where a first
one finds two values equal (`LawfulOn.lexicographic`), and by comparing under a function
(`LawfulOn.comap`).
-/

namespace Pushdown

variable {α β : Type*} {cmp : α → α → Ordering} {s t : Set α}

/-- **A total preorder on some values**, given by a comparison. -/
structure LawfulOn (cmp : α → α → Ordering) (s : Set α) : Prop where
  /-- Turning two values round turns the answer round. -/
  swap : ∀ a ∈ s, ∀ b ∈ s, cmp b a = (cmp a b).swap
  /-- What is not greater than something not greater is not greater. -/
  trans : ∀ a ∈ s, ∀ b ∈ s, ∀ c ∈ s, cmp a b ≠ .gt → cmp b c ≠ .gt → cmp a c ≠ .gt

namespace LawfulOn

/-- A lawful comparison is lawful on fewer values. -/
theorem mono (h : LawfulOn cmp s) (hts : t ⊆ s) : LawfulOn cmp t where
  swap a ha b hb := h.swap a (hts ha) b (hts hb)
  trans a ha b hb c hc := h.trans a (hts ha) b (hts hb) c (hts hc)

/-- Lawfulness is about the answers on the values alone. -/
theorem congr {cmp' : α → α → Ordering} (h : LawfulOn cmp s)
    (heq : ∀ a ∈ s, ∀ b ∈ s, cmp' a b = cmp a b) : LawfulOn cmp' s where
  swap a ha b hb := by
    rw [heq b hb a ha, heq a ha b hb]
    exact h.swap a ha b hb
  trans a ha b hb c hc := by
    rw [heq a ha b hb, heq b hb c hc, heq a ha c hc]
    exact h.trans a ha b hb c hc

section Members

variable {a b c : α}

theorem lt_iff_gt (h : LawfulOn cmp s) (ha : a ∈ s) (hb : b ∈ s) :
    cmp a b = .lt ↔ cmp b a = .gt := by
  rw [h.swap a ha b hb, Ordering.swap_eq_gt]

theorem eq_comm (h : LawfulOn cmp s) (ha : a ∈ s) (hb : b ∈ s) :
    cmp a b = .eq ↔ cmp b a = .eq := by
  rw [h.swap a ha b hb, Ordering.swap_eq_eq]

theorem eq_self (h : LawfulOn cmp s) (ha : a ∈ s) : cmp a a = .eq := by
  have hswap := h.swap a ha a ha
  -- an answer that is its own reverse is neither less nor greater
  cases hc : cmp a a with
  | eq => rfl
  | lt | gt =>
    rw [hc] at hswap
    exact absurd hswap (by decide)

/-- Two values not greater than each other are equal. -/
theorem eq_of_ne_gt_of_ne_gt (h : LawfulOn cmp s) (ha : a ∈ s) (hb : b ∈ s)
    (hab : cmp a b ≠ .gt) (hba : cmp b a ≠ .gt) : cmp a b = .eq := by
  cases hc : cmp a b with
  | lt => exact absurd ((h.lt_iff_gt ha hb).1 hc) hba
  | eq => rfl
  | gt => exact absurd hc hab

theorem lt_of_lt_of_ne_gt (h : LawfulOn cmp s) (ha : a ∈ s) (hb : b ∈ s) (hc : c ∈ s)
    (hab : cmp a b = .lt) (hbc : cmp b c ≠ .gt) : cmp a c = .lt := by
  have hac : cmp a c ≠ .gt := h.trans a ha b hb c hc (by rw [hab]; decide) hbc
  -- were `a` and `c` equal, `b` would not be greater than `c` and so not than `a`
  have hba : cmp b a = .gt := (h.lt_iff_gt ha hb).1 hab
  cases heq : cmp a c with
  | lt => rfl
  | eq =>
    have hca : cmp c a ≠ .gt := by rw [(h.eq_comm ha hc).1 heq]; decide
    exact absurd hba (h.trans b hb c hc a ha hbc hca)
  | gt => exact absurd heq hac

theorem lt_of_ne_gt_of_lt (h : LawfulOn cmp s) (ha : a ∈ s) (hb : b ∈ s) (hc : c ∈ s)
    (hab : cmp a b ≠ .gt) (hbc : cmp b c = .lt) : cmp a c = .lt := by
  have hac : cmp a c ≠ .gt := h.trans a ha b hb c hc hab (by rw [hbc]; decide)
  have hcb : cmp c b = .gt := (h.lt_iff_gt hb hc).1 hbc
  cases heq : cmp a c with
  | lt => rfl
  | eq =>
    -- the mirror image: `c` would not be greater than `a`, nor than `b`
    have hca : cmp c a ≠ .gt := by rw [(h.eq_comm ha hc).1 heq]; decide
    exact absurd hcb (h.trans c hc a ha b hb hca hab)
  | gt => exact absurd heq hac

/-- Equal values compare alike with a third. -/
theorem congr_left (h : LawfulOn cmp s) (ha : a ∈ s) (hb : b ∈ s) (hc : c ∈ s)
    (hab : cmp a b = .eq) : cmp a c = cmp b c := by
  -- equal means not greater in both directions
  have hle : cmp a b ≠ .gt := by rw [hab]; decide
  have hge : cmp b a ≠ .gt := by rw [(h.eq_comm ha hb).1 hab]; decide
  cases hbc : cmp b c with
  | lt => exact h.lt_of_ne_gt_of_lt ha hb hc hle hbc
  | eq =>
    have hcb : cmp c b ≠ .gt := by rw [(h.eq_comm hb hc).1 hbc]; decide
    exact h.eq_of_ne_gt_of_ne_gt ha hc (h.trans a ha b hb c hc hle (by rw [hbc]; decide))
      (h.trans c hc b hb a ha hcb hge)
  | gt =>
    -- `c` is less than `b`, and so than `a`
    rw [← h.lt_iff_gt hc hb] at hbc
    exact (h.lt_iff_gt hc ha).1 (h.lt_of_lt_of_ne_gt hc hb ha hbc hge)

end Members

/-- A comparison that is lawful on a type turns round on all of it. -/
theorem swap_of_univ (h : LawfulOn cmp Set.univ) (a b : α) : cmp b a = (cmp a b).swap :=
  h.swap a (Set.mem_univ a) b (Set.mem_univ b)

/-! ### Lawful comparisons from lawful comparisons -/

/-- The opposite of a lawful comparison is lawful. -/
theorem reversed (h : LawfulOn cmp s) : LawfulOn (fun a b => (cmp a b).swap) s where
  swap a ha b hb := by rw [h.swap a ha b hb]
  trans a ha b hb c hc hab hbc := by
    -- each answer is read the other way round, so transitivity goes the other way too
    rw [← h.swap a ha b hb] at hab
    rw [← h.swap b hb c hc] at hbc
    rw [← h.swap a ha c hc]
    exact h.trans c hc b hb a ha hbc hab

/-- **One comparison after another.** Where the first finds two values equal, the second decides. -/
theorem lexicographic {cmp' : α → α → Ordering} (h : LawfulOn cmp s) (h' : LawfulOn cmp' s) :
    LawfulOn (fun a b => (cmp a b).then (cmp' a b)) s where
  swap a ha b hb := by rw [h.swap a ha b hb, h'.swap a ha b hb, Ordering.swap_then]
  trans a ha b hb c hc hab hbc := by
    -- unless the first comparison finds all three equal, it decides `a` and `c` by itself
    have first {x y : α} (hxy : (cmp x y).then (cmp' x y) ≠ .gt) : cmp x y ≠ .gt := by
      intro hgt
      exact hxy (by rw [hgt]; rfl)
    cases hac : cmp a c with
    | lt => simp
    | gt => exact absurd hac (h.trans a ha b hb c hc (first hab) (first hbc))
    | eq =>
      have hca : cmp c a ≠ .gt := by rw [h.swap a ha c hc, hac]; decide
      -- `a` and `b` are equal: neither is greater than the other by way of `c`
      have heq : cmp a b = .eq :=
        h.eq_of_ne_gt_of_ne_gt ha hb (first hab) (h.trans b hb c hc a ha (first hbc) hca)
      have heq' : cmp b c = .eq := by rw [← h.congr_left ha hb hc heq, hac]
      rw [heq, Ordering.eq_then] at hab
      rw [heq', Ordering.eq_then] at hbc
      rw [Ordering.eq_then]
      exact h'.trans a ha b hb c hc hab hbc

/-- Finding all values equal is lawful. -/
theorem of_eq (h : ∀ a ∈ s, ∀ b ∈ s, cmp a b = .eq) : LawfulOn cmp s where
  swap a ha b hb := by rw [h b hb a ha, h a ha b hb]; rfl
  trans a ha b hb c hc _ _ := by rw [h a ha c hc]; decide

/-- Comparing under a function into a type with a lawful order. -/
theorem compareBy [Ord β] [Std.TransOrd β] (f : α → β) :
    LawfulOn (fun a b => compare (f a) (f b)) s where
  swap _ _ _ _ := Std.OrientedCmp.eq_swap
  -- the library says the same with `isLE`
  trans _ _ _ _ _ _ hab hbc := by
    have hac := Std.TransCmp.isLE_trans (Ordering.ne_gt_iff_isLE.1 hab)
      (Ordering.ne_gt_iff_isLE.1 hbc)
    exact Ordering.ne_gt_iff_isLE.2 hac

/-- Comparing under a function into lawfully compared values. -/
theorem comap {cmp : β → β → Ordering} {t : Set β} (h : LawfulOn cmp t) {f : α → β}
    (hf : ∀ a ∈ s, f a ∈ t) : LawfulOn (fun a b => cmp (f a) (f b)) s where
  swap a ha b hb := h.swap (f a) (hf a ha) (f b) (hf b hb)
  trans a ha b hb c hc := h.trans (f a) (hf a ha) (f b) (hf b hb) (f c) (hf c hc)

end LawfulOn

end Pushdown
