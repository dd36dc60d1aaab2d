import Pushdown.Proofs.Order.Cells

/-!
# Which cells a type orders

A type compares the cells that it can, and the rest are ordered by kind and text. Each of the two is
a total preorder as far as it goes, and still the two together need not be: `10` is less than `"1x"`
by kind, `"1x"` is less than `"9"` by text, and `10` is greater than `"9"` as a number. Three such
cells `Clash`, and the main statement, `lawfulOn_orderCells_iff`, is that a type orders the cells of
any set lawfully exactly if no three of them do. Whether they clash does not depend on the
direction, and nulls, which come last in either, are in no clash.

That cells which clash break transitivity is the same argument for every type
(`LawfulOn.not_between`). That nothing else does follows the types: where a type compares by a key,
its order is a patched comparison at once; documents are taken grade by grade.
-/

namespace Pushdown

/-! ### Cells under a type -/

/-- **Three cells that a type does not order.** In each way the middle one comes to stand between
the others although it is not compared with them as they are with each other. -/
inductive Clash (type : ColumnType) (p u q : Json) : Prop where
  /-- The type compares the ends and not the middle, which is placed by kind and text. -/
  | cells (h : Between (compareCells? type) compareByKind p u q)
  /-- The ends are moments and compared as such; the middle is none, and is placed by its text. -/
  | moments (htype : type = .timestamp) (hmiddle : u.isNull = false)
      (h : Between (keyed Json.instant? Time.Instant.compare) orderTexts p u q)
  /-- The ends are texts and compared as such; the middle is a number, and is placed by the numbers
  that they write. -/
  | numbers (htype : type.isScalar = false) (s t : String) (n : JsonNumber) (hlower : p = .string s)
      (hmiddle : u = .number n) (hupper : q = .string t)
      (hle : orderCells type .ascending p u ≠ .gt) (hle' : orderCells type .ascending u q ≠ .gt)
      (hends : compareTexts t s = .lt)

section Cells

variable {type : ColumnType} {d : Direction} {a b p u q : Json} {s : Set Json}

theorem compareCells?_of_isNull (ha : a.isNull = false) (hb : b.isNull = false) :
    compareCells? type a b = compareValues? type a b := by
  unfold compareCells?
  rw [ha, hb]
  rfl

/-- Nulls apart, an order of cells is a patched comparison in a direction. -/
theorem orderCells_of_isNull (ha : a.isNull = false) (hb : b.isNull = false) :
    orderCells type d a b = d.apply (patched (compareCells? type) compareByKind a b) := by
  unfold orderCells
  rw [ha, hb]
  rfl

theorem compareValues?_swap (ha : a.WellFormed) (hb : b.WellFormed) :
    compareValues? type b a = (compareValues? type a b).map Ordering.swap := by
  cases type with
  -- a key of numbers for the two types of them
  | integer | float =>
    change compareNumbers? b a = (compareNumbers? a b).map Ordering.swap
    rw [compareNumbers?_eq]
    exact keyed_swap (LawfulOn.compareBy id) numberKey? a b
  | boolean =>
    rw [compareValues?_boolean]
    exact keyed_swap lawfulOn_compareBools asBool? a b
  | text => exact congrArg some (lawfulOn_orderTexts.swap_of_univ a b)
  | timestamp =>
    -- moments are compared by themselves, and as texts where one of them is none
    change some (compareMoments b.bareText a.bareText) =
      some (compareMoments a.bareText b.bareText).swap
    rw [compareMoments_bareText, compareMoments_bareText]
    exact congrArg some (patched_swap (keyed_swap lawfulOn_instants Json.instant? a b)
      (lawfulOn_orderTexts.swap_of_univ a b))
  | json | vector => exact compareDocuments?_swap ha hb

/-- **Two cells turned round turn the answer round**, whatever they are. -/
theorem orderCells_swap (ha : a.WellFormed) (hb : b.WellFormed) :
    orderCells type d b a = (orderCells type d a b).swap := by
  unfold orderCells
  cases hna : a.isNull with
  -- nulls are last and equal among themselves, so turning them round is plain
  | true => cases b.isNull <;> rfl
  | false =>
    cases hnb : b.isNull with
    | true => rfl
    | false =>
      have hcells : compareCells? type b a = (compareCells? type a b).map Ordering.swap := by
        rw [compareCells?_of_isNull hnb hna, compareCells?_of_isNull hna hnb]
        exact compareValues?_swap ha hb
      have hswap := patched_swap hcells (lawfulOn_compareByKind.swap_of_univ a b)
      unfold patched at hswap
      dsimp only
      rw [hswap]
      cases d <;> rfl

/-! ### Types that compare by a key -/

/-- A type that compares by a key which nulls do not have compares no nulls. -/
theorem compareCells?_eq_keyed {κ : Type} {key : Json → Option κ} {cmp : κ → κ → Ordering}
    (h : compareValues? type = keyed key cmp) (hnull : key .null = none) :
    compareCells? type = keyed key cmp := by
  funext a b
  unfold compareCells?
  rw [h]
  split
  case isTrue hnone =>
    -- the null, on whichever side, has no key
    unfold keyed
    rcases Bool.or_eq_true_iff.1 hnone with hnone | hnone
    · rw [Json.isNull_iff.1 hnone, hnull]
      rfl
    · rw [Json.isNull_iff.1 hnone, hnull]
      cases key a <;> rfl
  case isFalse => rfl

/-- The text of a cell that is not null. -/
def textKey? (v : Json) : Option String := if v.isNull then none else some v.bareText

theorem compareCells?_text : compareCells? .text = keyed textKey? compareTexts := by
  funext a b
  unfold compareCells? keyed textKey?
  cases a.isNull with
  -- a null on either side compares with nothing, and has no text to compare
  | true => rfl
  | false => cases b.isNull <;> rfl

theorem compareCells?_numbers (h : type.isNumeric = true) :
    compareCells? type = keyed numberKey? compare := by
  refine compareCells?_eq_keyed ?_ rfl
  rw [← compareNumbers?_eq]
  cases type <;> first | rfl | simp [ColumnType.isNumeric] at h

theorem lawfulPart_numbers (h : type.isNumeric = true) : LawfulPart (compareCells? type) s := by
  rw [compareCells?_numbers h]
  exact LawfulPart.keyed (LawfulOn.compareBy id) numberKey?

theorem lawfulPart_booleans : LawfulPart (compareCells? .boolean) s := by
  rw [compareCells?_eq_keyed compareValues?_boolean rfl]
  exact LawfulPart.keyed lawfulOn_compareBools asBool?

theorem lawfulPart_texts : LawfulPart (compareCells? .text) s := by
  rw [compareCells?_text]
  exact LawfulPart.keyed lawfulOn_compareTexts textKey?

/-! ### Types without a clash -/

/-- Moments, and cells that are none. -/
theorem patched_timestamp (ha : a.isNull = false) (hb : b.isNull = false) :
    patched (compareCells? .timestamp) compareByKind a b =
      patched (keyed Json.instant? Time.Instant.compare) orderTexts a b := by
  rw [← compareMoments_bareText, patched_of_some]
  exact compareCells?_of_isNull ha hb

/-- Documents of every kind. -/
theorem patched_documents (htype : type.isScalar = false) (ha : a.isNull = false)
    (hb : b.isNull = false) :
    patched (compareCells? type) compareByKind a b =
      patched compareDocuments? compareByKind a b := by
  unfold patched
  rw [compareCells?_of_isNull ha hb]
  cases type <;> first | rfl | simp [ColumnType.isScalar] at htype

/-- Truth values among documents compare as such. -/
theorem lawfulOn_grade_zero :
    LawfulOn (patched compareDocuments? compareByKind) {v ∈ s | documentGrade v = 0} := by
  refine (LawfulOn.compareBy fun v => ((asBool? v).getD false).toNat).congr ?_
  rintro a ⟨-, ha⟩ b ⟨-, hb⟩
  -- of one grade there are only truth values
  cases a <;> cases b <;> first | rfl | simp [documentGrade] at ha hb

/-- What only the numbers that texts write can put between two cells is a number between two texts
of the other order. -/
theorem texts_of_between (hu : documentGrade u = 1)
    (h : Between (keyed Json.string? compareTexts) orderPlaces p u q) :
    ∃ s t n, p = .string s ∧ u = .number n ∧ q = .string t ∧ compareTexts t s = .lt := by
  obtain ⟨o, hends, hlt, hne⟩ := h.ends
  -- both ends have to be texts, or they would not compare
  obtain ⟨s, rfl, t, rfl, rfl⟩ :
      ∃ s, p = .string s ∧ ∃ t, q = .string t ∧ compareTexts s t = o := by
    cases p <;> cases q <;> simp [keyed, Json.string?] at hends
    exact ⟨_, rfl, _, rfl, hends⟩
  -- a text in the middle would compare with both, so it is a number
  obtain ⟨n, rfl⟩ : ∃ n, u = .number n := by
    have hleft := h.left
    cases u <;> simp [documentGrade, keyed, Json.string?] at hu hleft ⊢
  refine ⟨s, t, n, rfl, rfl, rfl, ?_⟩
  rw [lawfulOn_compareTexts.lt_iff_gt (Set.mem_univ t) (Set.mem_univ s)]
  cases hst : compareTexts s t with
  | lt => exact absurd hst hlt
  | gt => rfl
  | eq =>
    -- equal texts are one text, which has one place
    have heq : s = t := by simpa [compareTexts] using hst
    rw [heq] at hne hst
    exact absurd (hst.trans (lawfulOn_orderPlaces.eq_self (Set.mem_univ _)).symm) hne

/-- Numbers and texts among documents. -/
theorem lawfulOn_grade_one (htype : type.isScalar = false) (hs : ∀ v ∈ s, v.Sound)
    (h : ∀ p ∈ s, ∀ u ∈ s, ∀ q ∈ s, ¬ Clash type p u q) :
    LawfulOn (patched compareDocuments? compareByKind) {v ∈ s | documentGrade v = 1} := by
  have horder {a b : Json} (ha : a ∈ {v ∈ s | documentGrade v = 1})
      (hb : b ∈ {v ∈ s | documentGrade v = 1}) :
      patched compareDocuments? compareByKind a b =
        patched (keyed Json.string? compareTexts) orderPlaces a b :=
    orderDocuments_of_grade_eq_one (hs a ha.1) (hs b hb.1) ha.2 hb.2
  have hcells {a b : Json} (ha : a ∈ {v ∈ s | documentGrade v = 1})
      (hb : b ∈ {v ∈ s | documentGrade v = 1}) :
      orderCells type .ascending a b = patched compareDocuments? compareByKind a b := by
    have hnull {v : Json} (hv : documentGrade v = 1) : v.isNull = false := by
      cases v <;> first | rfl | simp [documentGrade] at hv
    rw [orderCells_of_isNull (hnull ha.2) (hnull hb.2), patched_documents htype (hnull ha.2)
      (hnull hb.2)]
    rfl
  -- a cell between two others by its place, in this patched comparison, is the third clash
  refine (LawfulOn.of_not_between (LawfulPart.keyed lawfulOn_compareTexts Json.string?)
    lawfulOn_orderPlaces ?_).congr fun a ha b hb => horder ha hb
  intro p hp u hu q hq hbetween
  have hlower : orderCells type .ascending p u ≠ .gt := by
    rw [hcells hp hu, horder hp hu, patched_of_none hbetween.left]
    exact hbetween.lower
  have hupper : orderCells type .ascending u q ≠ .gt := by
    rw [hcells hu hq, horder hu hq, patched_of_none hbetween.right]
    exact hbetween.upper
  obtain ⟨s, t, n, hps, hun, hqt, hends⟩ := texts_of_between hu.2 hbetween
  exact h p hp.1 u hu.1 q hq.1 (.numbers htype s t n hps hun hqt hlower hupper hends)

/-- Containers among documents. -/
theorem lawfulOn_grade_two (htype : type.isScalar = false) (hs : ∀ v ∈ s, v.Sound)
    (h : ∀ p ∈ s, ∀ u ∈ s, ∀ q ∈ s, ¬ Clash type p u q) :
    LawfulOn (patched compareDocuments? compareByKind) {v ∈ s | documentGrade v = 2} := by
  have hcontainer {v : Json} (hv : documentGrade v = 2) :
      v.isContainer = true ∧ v.isNull = false := by
    -- only containers have this grade
    cases v <;> first | exact ⟨rfl, rfl⟩ | simp [documentGrade] at hv
  have hdocuments {a b : Json} (ha : documentGrade a = 2) (hb : documentGrade b = 2) :
      compareDocuments? a b = if a.same b then some .eq else none :=
    compareDocuments?_of_isContainer (hcontainer ha).1 (hcontainer hb).1
  have hcells {a b : Json} (ha : documentGrade a = 2) (hb : documentGrade b = 2) :
      compareCells? type a b = if a.same b then some .eq else none := by
    rw [← hdocuments ha hb, compareCells?_of_isNull (hcontainer ha).2 (hcontainer hb).2]
    -- the types whose cells are documents are the two that are not scalar
    cases type <;> first | rfl | simp [ColumnType.isScalar] at htype
  have hpart : LawfulPart (fun a b : Json => if a.same b then some Ordering.eq else none)
      {v ∈ s | documentGrade v = 2} :=
    LawfulPart.equating
      (fun a ha b hb => Json.same_symm a b (hs a ha.1).wellFormed (hs b hb.1).wellFormed)
      Json.same_trans
  refine (LawfulOn.of_not_between hpart lawfulOn_compareByKind ?_).congr ?_
  · intro p hp u hu q hq hbetween
    exact h p hp.1 u hu.1 q hq.1 (.cells
      (hbetween.congr (hcells hp.2 hu.2) (hcells hu.2 hq.2) (hcells hp.2 hq.2)))
  · intro a ha b hb
    unfold patched
    rw [hdocuments ha.2 hb.2]

/-- **Documents that do not clash.** The grades are apart, and each is lawful for a reason of its
own. -/
theorem lawfulOn_documents (htype : type.isScalar = false) (hs : ∀ v ∈ s, v.Sound)
    (hnull : ∀ v ∈ s, v.isNull = false)
    (h : ∀ p ∈ s, ∀ u ∈ s, ∀ q ∈ s, ¬ Clash type p u q) :
    LawfulOn (patched compareDocuments? compareByKind) s := by
  -- a smaller grade is less, so by turning round a greater one is greater
  have hgt (a : Json) (ha : a ∈ s) (b : Json) (hb : b ∈ s)
      (hba : documentGrade b < documentGrade a) :
      patched compareDocuments? compareByKind a b = .gt := by
    rw [patched_swap (compareDocuments?_swap (hs b hb).wellFormed (hs a ha).wellFormed)
      (lawfulOn_compareByKind.swap_of_univ b a),
      orderDocuments_of_grade_lt hba]
    rfl
  refine (lawfulOn_graded_iff (fun a _ b _ => orderDocuments_of_grade_lt) hgt).2 fun n => ?_
  match n with
  | 0 => exact lawfulOn_grade_zero
  | 1 => exact lawfulOn_grade_one htype hs h
  | 2 => exact lawfulOn_grade_two htype hs h
  | n + 3 =>
    -- only nulls are left
    have hnone (v : Json) (hv : v ∈ {v ∈ s | documentGrade v = n + 3}) : False := by
      have hnull := hnull v hv.1
      have hgrade := hv.2
      cases v <;> simp [documentGrade, Json.isNull] at hgrade hnull
    exact ⟨fun a ha => (hnone a ha).elim, fun a ha => (hnone a ha).elim⟩

/-! ### The order of cells -/

/-- **Nulls apart, a type orders cells lawfully exactly where none of them clash.** -/
theorem lawfulOn_patched_iff (hs : ∀ v ∈ s, v.Sound) (hnull : ∀ v ∈ s, v.isNull = false) :
    LawfulOn (patched (compareCells? type) compareByKind) s ↔
      ∀ p ∈ s, ∀ u ∈ s, ∀ q ∈ s, ¬ Clash type p u q := by
  constructor
  · intro h p hp u hu q hq hclash
    cases hclash with
    -- a clash puts a cell between two others, which breaks transitivity
    | cells hbetween => exact h.not_between lawfulOn_compareByKind hp hu hq hbetween
    | moments htype _ hbetween =>
      subst htype
      -- under this type the fallback that decides is the one inside the comparison of moments
      have hmoments := h.congr fun a ha b hb => (patched_timestamp (hnull a ha) (hnull b hb)).symm
      exact hmoments.not_between lawfulOn_orderTexts hp hu hq hbetween
    | numbers htype s t n hps hun hqt hlower hupper hends =>
      rw [orderCells_of_isNull (hnull p hp) (hnull u hu)] at hlower
      rw [orderCells_of_isNull (hnull u hu) (hnull q hq)] at hupper
      refine h.trans p hp u hu q hq hlower hupper ?_
      rw [patched_documents htype (hnull p hp) (hnull q hq), hps, hqt]
      exact (lawfulOn_compareTexts.lt_iff_gt (Set.mem_univ t) (Set.mem_univ s)).1 hends
  · intro h
    have hbetween (p : Json) (hp : p ∈ s) (u : Json) (hu : u ∈ s) (q : Json) (hq : q ∈ s) :
        ¬ Between (compareCells? type) compareByKind p u q :=
      fun hb => h p hp u hu q hq (.cells hb)
    -- by type: each is a patched comparison, with a key, a part or grades to look for
    cases type with
    | integer | float =>
      exact .of_not_between (lawfulPart_numbers rfl) lawfulOn_compareByKind hbetween
    | boolean => exact .of_not_between lawfulPart_booleans lawfulOn_compareByKind hbetween
    | text => exact .of_not_between lawfulPart_texts lawfulOn_compareByKind hbetween
    | timestamp =>
      refine (LawfulOn.of_not_between (LawfulPart.keyed lawfulOn_instants Json.instant?)
        lawfulOn_orderTexts ?_).congr fun a ha b hb => patched_timestamp (hnull a ha) (hnull b hb)
      exact fun p hp u hu q hq hb => h p hp u hu q hq (.moments rfl (hnull u hu) hb)
    | json | vector =>
      exact (lawfulOn_documents rfl hs hnull h).congr
        fun a ha b hb => patched_documents rfl (hnull a ha) (hnull b hb)

/-- Cells that are compared are not null. -/
theorem isNull_of_compareCells? {o : Ordering} (h : compareCells? type a b = some o) :
    a.isNull = false ∧ b.isNull = false := by
  unfold compareCells? at h
  split at h
  case isTrue => simp at h
  case isFalse hnull => simpa using hnull

/-- A cell that writes a moment is not null. -/
theorem isNull_of_instant? {x : Time.Instant} (h : a.instant? = some x) : a.isNull = false := by
  by_contra hnull
  obtain rfl := Json.isNull_iff.1 (Bool.eq_true_of_not_eq_false hnull)
  have hnone : Json.instant? .null = none := by decide
  simp [hnone] at h

/-- Cells that clash are not null. -/
theorem Clash.isNull (h : Clash type p u q) :
    p.isNull = false ∧ u.isNull = false ∧ q.isNull = false := by
  cases h with
  | cells hbetween =>
    obtain ⟨o, hends, -⟩ := hbetween.ends
    obtain ⟨hp, hq⟩ := isNull_of_compareCells? hends
    refine ⟨hp, ?_, hq⟩
    -- a null would be the last of the three by its kind
    by_contra hnull
    obtain rfl := Json.isNull_iff.1 (Bool.eq_true_of_not_eq_false hnull)
    have hlast : compareByKind .null q = .gt := by
      cases q <;> first | rfl | simp [Json.isNull] at hq
    exact hbetween.upper hlast
  | moments _ hmiddle hbetween =>
    obtain ⟨o, hends, -⟩ := hbetween.ends
    unfold keyed at hends
    simp only [Option.bind_eq_some_iff, Option.map_eq_some_iff] at hends
    obtain ⟨x, hx, y, hy, -⟩ := hends
    -- the ends write moments, and no null does
    exact ⟨isNull_of_instant? hx, hmiddle, isNull_of_instant? hy⟩
  | numbers _ s t n hps hun hqt _ _ _ => exact ⟨hps ▸ rfl, hun ▸ rfl, hqt ▸ rfl⟩

/-- What is a number or writes one clashes with nothing under a type of numbers. -/
theorem not_clash_of_numberKey? (htype : type.isNumeric = true)
    (hu : (numberKey? u).isSome = true) : ¬ Clash type p u q := by
  obtain ⟨x, hx⟩ := Option.isSome_iff_exists.1 hu
  have hkeyed := compareCells?_numbers htype
  rintro (hbetween | ⟨rfl, -, -⟩ | ⟨hscalar⟩)
  · -- the ends compare by numbers, and the middle would too
    obtain ⟨o, hends, -⟩ := hbetween.ends
    have hleft := hbetween.left
    rw [hkeyed] at hends hleft
    unfold keyed at hends hleft
    rw [hx] at hleft
    cases hp : numberKey? p <;> simp [hp] at hends hleft
  · exact absurd htype (by decide)
  · cases type <;> simp [ColumnType.isNumeric, ColumnType.isScalar] at htype hscalar

/-- The opposite direction is lawful where the order is. -/
theorem lawfulOn_apply_iff {cmp : Json → Json → Ordering} :
    LawfulOn (fun a b => d.apply (cmp a b)) s ↔ LawfulOn cmp s := by
  cases d with
  | ascending => exact Iff.rfl
  | descending =>
    refine ⟨fun h => h.reversed.congr fun a _ b _ => ?_, LawfulOn.reversed⟩
    exact (Ordering.swap_swap).symm

/-- **A type orders cells lawfully exactly where none of them clash**, in either direction. -/
theorem lawfulOn_orderCells_iff (hs : ∀ v ∈ s, v.Sound) :
    LawfulOn (orderCells type d) s ↔ ∀ p ∈ s, ∀ u ∈ s, ∀ q ∈ s, ¬ Clash type p u q := by
  have hlt (a : Json) (_ : a ∈ s) (b : Json) (_ : b ∈ s) (h : a.isNull.toNat < b.isNull.toNat) :
      orderCells type d a b = .lt := by
    unfold orderCells
    -- a null is behind what is none, in either direction
    cases ha : a.isNull <;> cases hb : b.isNull <;> simp [ha, hb] at h ⊢
  have hgt (a : Json) (_ : a ∈ s) (b : Json) (_ : b ∈ s) (h : b.isNull.toNat < a.isNull.toNat) :
      orderCells type d a b = .gt := by
    unfold orderCells
    cases ha : a.isNull <;> cases hb : b.isNull <;> simp [ha, hb] at h ⊢
  have hnull {v : Json} (hv : v ∈ {v ∈ s | v.isNull.toNat = 0}) : v.isNull = false :=
    (Bool.toNat_eq_zero).1 hv.2
  have hcells : LawfulOn (orderCells type d) {v ∈ s | v.isNull.toNat = 0} ↔
      ∀ p ∈ {v ∈ s | v.isNull.toNat = 0}, ∀ u ∈ {v ∈ s | v.isNull.toNat = 0},
        ∀ q ∈ {v ∈ s | v.isNull.toNat = 0}, ¬ Clash type p u q := by
    have happly : LawfulOn (fun a b => d.apply (patched (compareCells? type) compareByKind a b))
        {v ∈ s | v.isNull.toNat = 0} ↔ _ := lawfulOn_apply_iff
    rw [← lawfulOn_patched_iff (fun v hv => hs v hv.1) fun v hv => hnull hv, ← happly]
    exact ⟨fun h => h.congr fun a ha b hb => (orderCells_of_isNull (hnull ha) (hnull hb)).symm,
      fun h => h.congr fun a ha b hb => orderCells_of_isNull (hnull ha) (hnull hb)⟩
  rw [lawfulOn_graded_iff hlt hgt]
  constructor
  · intro h p hp u hu q hq hclash
    -- cells that clash are in the grade of those that are not null
    obtain ⟨hpn, hun, hqn⟩ := hclash.isNull
    exact hcells.1 (h 0) p ⟨hp, by rw [hpn]; rfl⟩ u ⟨hu, by rw [hun]; rfl⟩ q ⟨hq, by rw [hqn]; rfl⟩
      hclash
  · intro h n
    match n with
    | 0 => exact hcells.2 fun p hp u hu q hq => h p hp.1 u hu.1 q hq.1
    | n + 1 =>
      -- nulls are all equal
      refine LawfulOn.of_eq fun a ha b hb => ?_
      have hna : a.isNull = true := by
        cases hna : a.isNull <;> simp [hna] at ha ⊢
      have hnb : b.isNull = true := by
        cases hnb : b.isNull <;> simp [hnb] at hb ⊢
      unfold orderCells
      rw [hna, hnb]

end Cells

end Pushdown
