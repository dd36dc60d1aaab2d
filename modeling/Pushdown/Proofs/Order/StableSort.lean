import Pushdown.Proofs.Order.Lawful
import Pushdown.Rows.Completion

/-!
# Stable sorts

A list is **stably sorted** from another if it has the same members, none of them greater than a
later one, and members that compare equal stand in their old order. The last point is said of
`peers cmp a rows`, the members of `rows` equal to `a`, in their order: sorting leaves it as it is
for every member.

Nothing is said about how the sort proceeds, and nothing needs to be: under a lawful comparison the
stably sorted list is determined (`StablySorted.unique`). So a remote side that sorts and the local
sort agree as soon as both are stable, and since leaving rows out keeps a list stably sorted
(`StablySorted.filter`), it does not matter whether rows are left out before or after.

The local sort puts one row after another into the reverse of a sorted list. Its invariant is that
the list so far, read backwards, is stably sorted from the rows so far
(`StablySorted.insertLast`), and the whole run follows by induction (`sortRows_stablySorted`).
-/

namespace Pushdown

section Theory

variable {α : Type*} {cmp : α → α → Ordering} {rows sorted : List α}

/-- The members that compare equal to a value, in their order. -/
def peers (cmp : α → α → Ordering) (a : α) (rows : List α) : List α :=
  rows.filter fun b => cmp a b == .eq

theorem peers_cons_of_eq {a b : α} (h : cmp a b = .eq) : peers cmp a (b :: rows) =
    b :: peers cmp a rows :=
  List.filter_cons_of_pos (by simp [h])

theorem peers_cons_of_ne {a b : α} (h : cmp a b ≠ .eq) : peers cmp a (b :: rows) =
    peers cmp a rows :=
  List.filter_cons_of_neg (by simp [h])

theorem peers_reverse (a : α) (rows : List α) :
    peers cmp a rows.reverse = (peers cmp a rows).reverse :=
  List.filter_reverse

/-- **Stably sorted**: the same members, none greater than a later one, equal ones in their old
order. -/
structure StablySorted (cmp : α → α → Ordering) (rows sorted : List α) : Prop where
  /-- The members are the same. -/
  perm : sorted.Perm rows
  /-- No member is greater than a later one. -/
  ordered : sorted.Pairwise fun a b => cmp a b ≠ .gt
  /-- Members that compare equal keep their order. -/
  stable : ∀ a ∈ rows, peers cmp a sorted = peers cmp a rows

/-- Leaving rows out keeps a list stably sorted. -/
theorem StablySorted.filter (h : StablySorted cmp rows sorted) (keep : α → Bool) :
    StablySorted cmp (rows.filter keep) (sorted.filter keep) where
  perm := h.perm.filter keep
  ordered := h.ordered.filter keep
  stable a ha := by
    have hcomm (l : List α) : peers cmp a (l.filter keep) = (peers cmp a l).filter keep := by
      unfold peers
      simp only [List.filter_filter, Bool.and_comm]
    rw [hcomm, hcomm, h.stable a (List.mem_filter.1 ha).1]

/-- Rows that all compare equal are stably sorted as they stand, and in no other order. -/
theorem stablySorted_of_eq_iff (h : ∀ a b, cmp a b = .eq) :
    StablySorted cmp rows sorted ↔ sorted = rows := by
  -- every row is a peer of every row
  have hpeers (a : α) (l : List α) : peers cmp a l = l :=
    List.filter_eq_self.2 fun b _ => by simp [h a b]
  constructor
  · intro hs
    cases rows with
    | nil => exact hs.perm.eq_nil
    | cons a rest =>
      have hstable := hs.stable a List.mem_cons_self
      rwa [hpeers, hpeers] at hstable
  · rintro rfl
    refine ⟨List.Perm.refl _, ?_, fun _ _ => rfl⟩
    exact List.Pairwise.imp (fun _ => by simp [h]) (List.pairwise_of_forall fun _ _ => trivial)

/-- Two ordered lists with the same members, in which equal members stand in the same order, are
one list. -/
theorem eq_of_peers_eq (hl : LawfulOn cmp {a | a ∈ rows}) (hperm : rows.Perm sorted)
    (hr : rows.Pairwise fun a b => cmp a b ≠ .gt) (hs : sorted.Pairwise fun a b => cmp a b ≠ .gt)
    (hpeers : ∀ a ∈ rows, peers cmp a rows = peers cmp a sorted) : rows = sorted := by
  -- on the rows: the head of the one list is the head of the other
  induction rows generalizing sorted with
  | nil => exact hperm.nil_eq
  | cons x rest ih =>
    obtain _ | ⟨y, sorted⟩ := sorted
    · exact absurd hperm.eq_nil (by simp)
    have hx : x ∈ x :: rest := List.mem_cons_self
    have hy : y ∈ x :: rest := hperm.mem_iff.2 List.mem_cons_self
    have hself : cmp x x = .eq := hl.eq_self hx
    -- each of the two heads is at most the other, so they are peers and the first of their peers
    have hxy : cmp x y ≠ .gt := by
      rcases List.mem_cons.1 hy with rfl | hy'
      · rw [hself]; decide
      · exact List.rel_of_pairwise_cons hr hy'
    have hyx : cmp y x ≠ .gt := by
      rcases List.mem_cons.1 (hperm.mem_iff.1 hx) with h | hx'
      · rw [← h, hself]; decide
      · exact List.rel_of_pairwise_cons hs hx'
    have hhead := hpeers x hx
    rw [peers_cons_of_eq hself, peers_cons_of_eq (hl.eq_of_ne_gt_of_ne_gt hx hy hxy hyx)] at hhead
    obtain rfl : x = y := (List.cons.inj hhead).1
    congr 1
    refine ih (hl.mono fun a ha => List.mem_cons_of_mem x ha) hperm.cons_inv hr.tail hs.tail ?_
    intro a ha
    have hrest := hpeers a (List.mem_cons_of_mem x ha)
    -- the heads were the same row, so the peers of the rest agree
    by_cases hax : cmp a x = .eq
    · rw [peers_cons_of_eq hax, peers_cons_of_eq hax] at hrest
      exact (List.cons.inj hrest).2
    · rwa [peers_cons_of_ne hax, peers_cons_of_ne hax] at hrest

/-- **The stably sorted list is determined** under a lawful comparison. -/
theorem StablySorted.unique (hl : LawfulOn cmp {a | a ∈ rows}) {sorted' : List α}
    (h : StablySorted cmp rows sorted) (h' : StablySorted cmp rows sorted') : sorted = sorted' := by
  have hsub : {a | a ∈ sorted} ⊆ {a | a ∈ rows} := fun _ ha => h.perm.mem_iff.1 ha
  refine eq_of_peers_eq (hl.mono hsub) (h.perm.trans h'.perm.symm) h.ordered h'.ordered ?_
  intro a ha
  rw [h.stable a (hsub ha), h'.stable a (hsub ha)]

/-- A comparison that is lawful on rows is lawful on those that are kept. -/
theorem LawfulOn.filter (h : LawfulOn cmp {a | a ∈ rows}) (keep : α → Bool) :
    LawfulOn cmp {a | a ∈ rows.filter keep} :=
  h.mono fun _ ha => (List.mem_filter.1 ha).1

/-- Sorting leaves the peers of any value as they are, be it a member or not. -/
theorem StablySorted.peers_eq {s : Set α} (hl : LawfulOn cmp s) (hrows : ∀ b ∈ rows, b ∈ s)
    (h : StablySorted cmp rows sorted) {a : α} (ha : a ∈ s) :
    peers cmp a sorted = peers cmp a rows := by
  by_cases hpeer : ∃ b ∈ rows, cmp a b = .eq
  · -- a value with a peer among the rows has the peers of that one
    obtain ⟨b, hb, hab⟩ := hpeer
    have hcongr (l : List α) (hsub : ∀ c ∈ l, c ∈ rows) : peers cmp a l = peers cmp b l :=
      List.filter_congr fun c hc => by
        rw [hl.congr_left ha (hrows b hb) (hrows c (hsub c hc)) hab]
    rw [hcongr sorted fun c hc => h.perm.mem_iff.1 hc, hcongr rows fun c hc => hc]
    exact h.stable b hb
  · have hnone (l : List α) (hsub : ∀ c ∈ l, c ∈ rows) : peers cmp a l = [] :=
      List.filter_eq_nil_iff.2 fun c hc heq => hpeer ⟨c, hsub c hc, beq_iff_eq.1 heq⟩
    rw [hnone sorted fun c hc => h.perm.mem_iff.1 hc, hnone rows fun c hc => hc]

end Theory

/-! ### The local sort -/

section LocalSort

variable {cmp : Record → Record → Ordering} {s : Set Record} {row : Record} {before : List Record}

theorem insertLast_perm (less : Record → Record → Bool) (row : Record) (before : List Record) :
    (insertLast less row before).Perm (row :: before) := by
  induction before with
  | nil => exact List.Perm.refl _
  | cons last before ih =>
    unfold insertLast
    split
    · -- a row that is passed keeps its place behind the new one
      exact (ih.cons last).trans (List.Perm.swap row last before)
    · exact List.Perm.refl _

/-- The reverse of a sorted list stays one when a row is put in. -/
theorem insertLast_ordered (hl : LawfulOn cmp s) (hrow : row ∈ s) (hmem : ∀ a ∈ before, a ∈ s)
    (h : before.Pairwise fun a b => cmp b a ≠ .gt) :
    (insertLast (fun a b => cmp a b == .lt) row before).Pairwise fun a b => cmp b a ≠ .gt := by
  induction before with
  | nil => exact List.pairwise_singleton _ _
  | cons last before ih =>
    have hlast : last ∈ s := hmem last List.mem_cons_self
    have hbefore : ∀ a ∈ before, a ∈ s := fun a ha => hmem a (List.mem_cons_of_mem last ha)
    unfold insertLast
    split
    case isTrue hless =>
      -- the new row stands behind this one, which it is not less than
      refine List.Pairwise.cons ?_ (ih hbefore h.tail)
      intro b hb
      rcases List.mem_cons.1 ((insertLast_perm _ row before).mem_iff.1 hb) with rfl | hb
      · rw [beq_iff_eq.1 hless]
        decide
      · exact List.rel_of_pairwise_cons h hb
    case isFalse hless =>
      have hle : cmp last row ≠ .gt := fun hgt =>
        hless (beq_iff_eq.2 ((hl.lt_iff_gt hrow hlast).2 hgt))
      refine List.Pairwise.cons ?_ h
      intro b hb
      -- below the new row there is only what is not less than it
      rcases List.mem_cons.1 hb with rfl | hb
      · exact hle
      · exact hl.trans b (hbefore b hb) last hlast row hrow (List.rel_of_pairwise_cons h hb) hle

/-- A row that is put in stands in front of its peers: it passes only rows that it is less than. -/
theorem peers_insertLast (hl : LawfulOn cmp s) (hrow : row ∈ s) (hmem : ∀ a ∈ before, a ∈ s)
    {a : Record} (ha : a ∈ s) :
    peers cmp a (insertLast (fun a b => cmp a b == .lt) row before) =
      peers cmp a (row :: before) := by
  induction before with
  | nil => rfl
  | cons last before ih =>
    have hlast : last ∈ s := hmem last List.mem_cons_self
    have ih := ih fun b hb => hmem b (List.mem_cons_of_mem last hb)
    unfold insertLast
    split
    case isTrue hless =>
      by_cases harow : cmp a row = .eq
      · -- a row that is less than another is not its peer
        have halast : cmp a last ≠ .eq := by
          rw [hl.congr_left ha hrow hlast harow, beq_iff_eq.1 hless]
          decide
        rw [peers_cons_of_ne halast, ih, peers_cons_of_eq harow, peers_cons_of_eq harow,
          peers_cons_of_ne halast]
      · rw [peers_cons_of_ne harow] at ih ⊢
        unfold peers at ih ⊢
        rw [List.filter_cons, List.filter_cons, ih]
    case isFalse => rfl

/-- **One step of the local sort.** -/
theorem StablySorted.insertLast {rows : List Record}
    (hl : LawfulOn cmp {a | a ∈ rows ++ [row]}) (h : StablySorted cmp rows before.reverse) :
    StablySorted cmp (rows ++ [row])
      (Pushdown.insertLast (fun a b => cmp a b == .lt) row before).reverse := by
  have hbefore : before.Perm rows := (List.reverse_perm before).symm.trans h.perm
  have hrow : row ∈ rows ++ [row] := by simp
  have hmem : ∀ a ∈ before, a ∈ rows ++ [row] := fun a ha =>
    List.mem_append_left [row] (hbefore.mem_iff.1 ha)
  refine ⟨?_, ?_, ?_⟩
  · have hput := insertLast_perm (fun a b => cmp a b == .lt) row before
    exact (List.reverse_perm _).trans (hput.trans ((hbefore.cons row).trans
      (List.perm_append_singleton row rows).symm))
  · rw [List.pairwise_reverse]
    exact insertLast_ordered hl hrow hmem (List.pairwise_reverse.1 h.ordered)
  · intro a ha
    -- among the peers of `a` the new row is the last, as it is in the rows
    have hstable : peers cmp a before.reverse = peers cmp a rows :=
      h.peers_eq hl (fun b hb => List.mem_append_left [row] hb) ha
    rw [peers_reverse, peers_insertLast hl hrow hmem ha]
    rw [peers_reverse] at hstable
    unfold peers at hstable ⊢
    rw [List.filter_append, ← hstable, List.filter_cons, List.filter_cons]
    split <;> simp

/-- **The local sort is stable.** -/
theorem sortRows_stablySorted {rows : List Record} (hl : LawfulOn cmp {a | a ∈ rows}) :
    StablySorted cmp rows (sortRows (fun a b => cmp a b == .lt) rows) := by
  suffices h : ∀ (rest seen before : List Record), seen ++ rest = rows →
      StablySorted cmp seen before.reverse → StablySorted cmp rows (rest.foldl
        (fun sorted row => Pushdown.insertLast (fun a b => cmp a b == .lt) row sorted)
        before).reverse by
    exact h rows [] [] rfl ⟨List.Perm.refl _, List.Pairwise.nil, fun _ _ => rfl⟩
  intro rest
  induction rest with
  | nil =>
    intro seen before hrows h
    rwa [← hrows, List.append_nil]
  | cons row rest ih =>
    intro seen before hrows h
    -- the rows that were seen and those that are left make up all of them
    have hrows' : (seen ++ [row]) ++ rest = rows := by rw [← hrows]; simp
    refine ih (seen ++ [row]) _ hrows' (h.insertLast (hl.mono ?_))
    intro a ha
    rw [← hrows']
    exact List.mem_append_left rest ha

/-- **Sorting by the keys of an order is stable**, where the keys compare the rows lawfully. -/
theorem sortLocally_stablySorted {schema : Schema} {keys : List OrderKey} {rows : List Record}
    (hl : LawfulOn (compareRows (typedKeys schema keys)) {a | a ∈ rows}) :
    StablySorted (compareRows (typedKeys schema keys)) rows (sortLocally schema keys rows) := by
  unfold sortLocally
  split
  case isTrue hempty =>
    rw [List.isEmpty_iff.1 hempty]
    exact (stablySorted_of_eq_iff fun _ _ => rfl).2 rfl
  case isFalse => exact sortRows_stablySorted hl

end LocalSort

end Pushdown
