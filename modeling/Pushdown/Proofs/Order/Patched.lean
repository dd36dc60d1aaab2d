import Pushdown.Proofs.Order.Lawful

/-!
# Comparisons patched by a fallback

A comparison may have no answer for some pairs of values. `patched part fallback` asks a second one
about these. If each of the two is lawful as far as it goes, the patched comparison turns round as
it should, but it need not be transitive: a value that the first comparison knows nothing of is
placed by the second, and may come to stand between two values that the first has the other way
round. Such a value is `Between` the two.

The main statement, `LawfulOn.of_not_between`, is that nothing else can go wrong: a patched
comparison is lawful where no value is between two others in this sense, and nowhere else
(`LawfulOn.not_between`). What the first comparison has to be for that is `LawfulPart`. Comparing
keys that some values have and others do not is such a comparison (`LawfulPart.keyed`), and so is
finding values equal and having no answer otherwise (`LawfulPart.equating`).

The last section is about values that come in grades: where a greater grade decides by itself, a
comparison is lawful exactly if it is lawful within each grade (`lawfulOn_graded_iff`).
-/

namespace Pushdown

variable {α κ : Type*} {part : α → α → Option Ordering} {fallback : α → α → Ordering} {s : Set α}

/-! ### Specification -/

/-- **A comparison with a fallback** for the pairs that it does not compare. -/
def patched (part : α → α → Option Ordering) (fallback : α → α → Ordering) (a b : α) : Ordering :=
  (part a b).getD (fallback a b)

/-- **Comparing keys** that some values have. -/
def keyed (key : α → Option κ) (cmp : κ → κ → Ordering) (a b : α) : Option Ordering :=
  (key a).bind fun x => (key b).map fun y => cmp x y

/-- **A total preorder as far as it goes**: values that compare with a common one compare, and in
accordance with that. -/
structure LawfulPart (part : α → α → Option Ordering) (s : Set α) : Prop where
  /-- Turning two values round turns the answer round, or there is none either way. -/
  swap : ∀ a ∈ s, ∀ b ∈ s, part b a = (part a b).map Ordering.swap
  /-- Two values that compare with a third compare, transitively. -/
  trans : ∀ a ∈ s, ∀ b ∈ s, ∀ c ∈ s, ∀ o o', part a b = some o → part b c = some o' →
    ∃ o'', part a c = some o'' ∧ (o ≠ .gt → o' ≠ .gt → o'' ≠ .gt)

/-- **A value between two others for the fallback alone.** The first comparison compares `p` and `q`
with each other and neither of them with `u`. The fallback puts `u` between them, which the first
comparison does not bear out. -/
structure Between (part : α → α → Option Ordering) (fallback : α → α → Ordering) (p u q : α) :
    Prop where
  /-- The value does not compare with the lower end. -/
  left : part p u = none
  /-- The value does not compare with the upper end. -/
  right : part u q = none
  /-- By the fallback it is not below the lower end. -/
  lower : fallback p u ≠ .gt
  /-- By the fallback it is not above the upper end. -/
  upper : fallback u q ≠ .gt
  /-- The ends compare, but not so that the lower one is less, nor as the fallback has it. -/
  ends : ∃ o, part p q = some o ∧ o ≠ .lt ∧ o ≠ fallback p q

/-! ### Parts -/

theorem keyed_swap {cmp : κ → κ → Ordering} (h : LawfulOn cmp Set.univ) (key : α → Option κ)
    (a b : α) : keyed key cmp b a = (keyed key cmp a b).map Ordering.swap := by
  unfold keyed
  cases key a with
  -- a value without a key compares with nothing, in either order
  | none => cases key b <;> rfl
  | some x =>
    cases key b with
    | none => rfl
    | some y => exact congrArg some (h.swap_of_univ x y)

namespace LawfulPart

section Members

variable {a b c : α}

theorem none_comm (h : LawfulPart part s) (ha : a ∈ s) (hb : b ∈ s) :
    part a b = none ↔ part b a = none := by
  rw [h.swap a ha b hb, Option.map_eq_none_iff]

theorem some_comm (h : LawfulPart part s) (ha : a ∈ s) (hb : b ∈ s) {o : Ordering}
    (hab : part a b = some o) : part b a = some o.swap := by
  rw [h.swap a ha b hb, hab]
  rfl

/-- What compares with one of two values that compare with each other compares with the other. -/
theorem none_of_some_of_none (h : LawfulPart part s) (ha : a ∈ s) (hb : b ∈ s) (hc : c ∈ s)
    {o : Ordering} (hab : part a b = some o) (hbc : part b c = none) : part a c = none := by
  cases hac : part a c with
  | none => rfl
  -- the two would compare by way of `a`
  | some o' =>
    obtain ⟨o'', hsome, -⟩ := h.trans b hb a ha c hc _ _ (h.some_comm ha hb hab) hac
    exact absurd (hbc.symm.trans hsome) (by simp)

end Members

theorem keyed {cmp : κ → κ → Ordering} (h : LawfulOn cmp Set.univ) (key : α → Option κ) :
    LawfulPart (keyed key cmp) s where
  swap a _ b _ := keyed_swap h key a b
  trans a _ b _ c _ o o' hab hbc := by
    unfold Pushdown.keyed at hab hbc ⊢
    simp only [Option.bind_eq_some_iff, Option.map_eq_some_iff] at hab hbc ⊢
    -- the middle key is one and the same, so the keys are compared transitively
    obtain ⟨x, hx, y, hy, rfl⟩ := hab
    obtain ⟨y', hy', z, hz, rfl⟩ := hbc
    obtain rfl := Option.some.inj (hy.symm.trans hy')
    exact ⟨_, ⟨x, hx, z, hz, rfl⟩,
      h.trans x (Set.mem_univ x) y (Set.mem_univ y) z (Set.mem_univ z)⟩

/-- **Finding values equal.** -/
theorem equating {same : α → α → Bool} (hsymm : ∀ a ∈ s, ∀ b ∈ s, same a b = true → same b a = true)
    (htrans : ∀ a b c, same a b = true → same b c = true → same a c = true) :
    LawfulPart (fun a b => if same a b then some Ordering.eq else none) s where
  swap a ha b hb := by
    have hcomm : same a b = same b a := Bool.eq_iff_iff.2 ⟨hsymm a ha b hb, hsymm b hb a ha⟩
    rw [hcomm]
    cases same b a <;> rfl
  trans a _ b _ c _ o o' hab hbc := by
    simp only [Option.ite_none_right_eq_some] at hab hbc ⊢
    exact ⟨.eq, ⟨htrans a b c hab.1 hbc.1, rfl⟩, fun _ _ => by decide⟩

end LawfulPart

/-! ### Patched comparisons -/

theorem patched_of_none {a b : α} (h : part a b = none) :
    patched part fallback a b = fallback a b := by
  unfold patched
  rw [h]
  rfl

theorem patched_of_some {a b : α} {o : Ordering} (h : part a b = some o) :
    patched part fallback a b = o := by
  unfold patched
  rw [h]
  rfl

/-- Whether a value is between two others depends on no other pairs. -/
theorem Between.congr {part' : α → α → Option Ordering} {p u q : α}
    (h : Between part fallback p u q) (hpu : part' p u = part p u) (huq : part' u q = part u q)
    (hpq : part' p q = part p q) : Between part' fallback p u q where
  left := hpu.trans h.left
  right := huq.trans h.right
  lower := h.lower
  upper := h.upper
  ends := hpq ▸ h.ends

/-- A patched comparison turns round if both its parts do. -/
theorem patched_swap {a b : α} (hpart : part b a = (part a b).map Ordering.swap)
    (hfallback : fallback b a = (fallback a b).swap) :
    patched part fallback b a = (patched part fallback a b).swap := by
  unfold patched
  rw [hpart, hfallback]
  cases part a b <;> rfl

/-- **A value between two others breaks transitivity**, whatever the first comparison is. -/
theorem LawfulOn.not_between (h : LawfulOn (patched part fallback) s)
    (hfallback : LawfulOn fallback s) {p u q : α} (hp : p ∈ s) (hu : u ∈ s) (hq : q ∈ s) :
    ¬ Between part fallback p u q := by
  rintro ⟨hleft, hright, hlower, hupper, o, hends, hlt, hne⟩
  have hpu : patched part fallback p u ≠ .gt := by rwa [patched_of_none hleft]
  have huq : patched part fallback u q ≠ .gt := by rwa [patched_of_none hright]
  -- by way of `u` the lower end is not greater, and by the part it is not less
  have hpq : patched part fallback p q = .eq := by
    have hle := h.trans p hp u hu q hq hpu huq
    rw [patched_of_some hends] at hle ⊢
    cases o with
    | lt => exact absurd rfl hlt
    | eq => rfl
    | gt => exact absurd rfl hle
  have hqp : patched part fallback q p ≠ .gt := by
    rw [(h.eq_comm hp hq).1 hpq]
    decide
  -- equal ends make all three equal, so the fallback has the ends equal too
  have hpu' := h.eq_of_ne_gt_of_ne_gt hp hu hpu (h.trans u hu q hq p hp huq hqp)
  have huq' := h.eq_of_ne_gt_of_ne_gt hu hq huq (h.trans q hq p hp u hu hqp hpu)
  rw [patched_of_none hleft] at hpu'
  rw [patched_of_none hright] at huq'
  rw [patched_of_some hends] at hpq
  have hsame : fallback p q = .eq := by rw [hfallback.congr_left hp hu hq hpu', huq']
  exact hne (hpq.trans hsame.symm)

/-- **Without a value between two others a patched comparison is lawful.** -/
theorem LawfulOn.of_not_between (hpart : LawfulPart part s) (hfallback : LawfulOn fallback s)
    (h : ∀ p ∈ s, ∀ u ∈ s, ∀ q ∈ s, ¬ Between part fallback p u q) :
    LawfulOn (patched part fallback) s where
  swap a ha b hb := patched_swap (hpart.swap a ha b hb) (hfallback.swap a ha b hb)
  trans a ha b hb c hc hab hbc := by
    cases hxy : part a b with
    | some o =>
      rw [patched_of_some hxy] at hab
      cases hyz : part b c with
      | some o' =>
        rw [patched_of_some hyz] at hbc
        obtain ⟨o'', hxz, hle⟩ := hpart.trans a ha b hb c hc o o' hxy hyz
        rw [patched_of_some hxz]
        exact hle hab hbc
      | none =>
        -- `c` would be between `b` and `a`
        rw [patched_of_none hyz] at hbc
        have hxz := hpart.none_of_some_of_none ha hb hc hxy hyz
        rw [patched_of_none hxz]
        intro hgt
        have hca : fallback c a = .lt := (hfallback.lt_iff_gt hc ha).2 hgt
        have hba : fallback b a = .lt := hfallback.lt_of_ne_gt_of_lt hb hc ha hbc hca
        -- the ends `b` and `a` compare by the part, but not so that `b` is less
        refine h b hb c hc a ha ⟨hyz, (hpart.none_comm ha hc).1 hxz, hbc, by simp [hca],
          o.swap, hpart.some_comm ha hb hxy, ?_, ?_⟩
        · rwa [ne_eq, Ordering.swap_eq_lt]
        · rwa [hba, ne_eq, Ordering.swap_eq_lt]
    | none =>
      rw [patched_of_none hxy] at hab
      cases hyz : part b c with
      | some o' =>
        -- `a` would be between `c` and `b`
        rw [patched_of_some hyz] at hbc
        have hzx := hpart.none_of_some_of_none hc hb ha (hpart.some_comm hb hc hyz)
          ((hpart.none_comm ha hb).1 hxy)
        rw [patched_of_none ((hpart.none_comm hc ha).1 hzx)]
        intro hgt
        have hca : fallback c a = .lt := (hfallback.lt_iff_gt hc ha).2 hgt
        have hcb : fallback c b = .lt := hfallback.lt_of_lt_of_ne_gt hc ha hb hca hab
        refine h c hc a ha b hb ⟨hzx, hxy, by simp [hca], hab,
          o'.swap, hpart.some_comm hb hc hyz, ?_, ?_⟩
        · rwa [ne_eq, Ordering.swap_eq_lt]
        · rwa [hcb, ne_eq, Ordering.swap_eq_lt]
      | none =>
        rw [patched_of_none hyz] at hbc
        have hac := hfallback.trans a ha b hb c hc hab hbc
        cases hxz : part a c with
        | none => rwa [patched_of_none hxz]
        | some o =>
          -- `b` is between `a` and `c`
          rw [patched_of_some hxz]
          rintro rfl
          exact h a ha b hb c hc ⟨hxy, hyz, hab, hbc, .gt, hxz, by decide, hac.symm⟩

/-! ### Grades -/

/-- **Where a greater grade decides**, a comparison is lawful exactly if it is within each grade. -/
theorem lawfulOn_graded_iff {cmp : α → α → Ordering} {grade : α → Nat}
    (hlt : ∀ a ∈ s, ∀ b ∈ s, grade a < grade b → cmp a b = .lt)
    (hgt : ∀ a ∈ s, ∀ b ∈ s, grade b < grade a → cmp a b = .gt) :
    LawfulOn cmp s ↔ ∀ n, LawfulOn cmp {a ∈ s | grade a = n} := by
  constructor
  · exact fun h n => h.mono fun a ha => ha.1
  · intro h
    have hgrade {a b : α} (ha : a ∈ s) (hb : b ∈ s) (hab : cmp a b ≠ .gt) : grade a ≤ grade b := by
      -- a greater grade would have decided the other way
      by_contra hnot
      exact hab (hgt a ha b hb (Nat.lt_of_not_le hnot))
    constructor
    · intro a ha b hb
      rcases Nat.lt_trichotomy (grade a) (grade b) with hab | hab | hab
      · rw [hlt a ha b hb hab, hgt b hb a ha hab]
        rfl
      · exact (h (grade b)).swap a ⟨ha, hab⟩ b ⟨hb, rfl⟩
      · rw [hgt a ha b hb hab, hlt b hb a ha hab]
        rfl
    · intro a ha b hb c hc hab hbc
      -- neither of the two steps goes down in grade
      have hle := hgrade ha hb hab
      have hle' := hgrade hb hc hbc
      rcases Nat.lt_or_ge (grade a) (grade c) with hac | hac
      · rw [hlt a ha c hc hac]
        decide
      · exact (h (grade c)).trans a ⟨ha, by omega⟩ b ⟨hb, by omega⟩ c ⟨hc, rfl⟩ hab hbc

end Pushdown
