import Pushdown.Proofs.Json.Entries

/-!
# Equality of values is an equality

Two JSON values are the same (`Json.same`) if they differ in the order of the entries of objects and
in the sign of zeros at most. The definition goes through the entries of the first object only and
compares the numbers of entries, so that it is symmetric is not plain: it needs that the keys of an
object are distinct, which `Json.WellFormed` says. Then the keys of two objects that are the same
are the same keys (`Record.mem_keys_of_subset`).

Both proofs are by induction on the first value, with one statement for values, lists of values and
lists of entries each.
-/

namespace Pushdown

open Number

/-! ### Numbers -/

theorem Number.Double.sameValue_comm (x y : Double) : x.sameValue y = y.sameValue x := by
  unfold sameValue
  rw [compare?_swap x y]
  cases x.compare? y with
  | none => rfl
  -- only whether two numbers are equal is kept, and that looks the same from both sides
  | some o => cases o <;> rfl

theorem Number.Double.sameValue_iff {x y : Double} :
    x.sameValue y = true ↔ x.isNaN = false ∧ y.isNaN = false ∧ x.key = y.key := by
  unfold sameValue compare?
  cases x.isNaN <;> cases y.isNaN <;> simp

theorem JsonNumber.same_comm (x y : JsonNumber) : x.same y = y.same x := by
  cases x with
  | int i =>
    cases y with
    | int j => exact Bool.beq_comm
    | float y => rfl
  | float x =>
    cases y with
    | int j => rfl
    | float y => exact x.sameValue_comm y

theorem JsonNumber.same_trans {x y z : JsonNumber} (hxy : x.same y = true) (hyz : y.same z = true) :
    x.same z = true := by
  cases x with
  | int i =>
    cases y with
    | int j =>
      obtain rfl := beq_iff_eq.1 hxy
      exact hyz
    -- an integer and a fraction are never the same, so both have to be of one kind
    | float y => exact absurd hxy nofun
  | float x =>
    cases y with
    | int j => exact absurd hxy nofun
    | float y =>
      cases z with
      | int k => exact absurd hyz nofun
      | float z =>
        obtain ⟨hx, -, hxy⟩ := Double.sameValue_iff.1 hxy
        obtain ⟨-, hz, hyz⟩ := Double.sameValue_iff.1 hyz
        exact Double.sameValue_iff.2 ⟨hx, hz, hxy.trans hyz⟩

/-! ### Values -/

namespace Json

theorem wellFormedEntries_iff {entries : List (String × Json)} :
    WellFormedEntries entries ↔ ∀ e ∈ entries, e.2.WellFormed := by
  induction entries with
  | nil => simp [WellFormedEntries]
  | cons e entries ih => rw [WellFormedEntries, ih, List.forall_mem_cons]

theorem sameEntries_iff {entries : List (String × Json)} {r : Record} :
    sameEntries entries r = true ↔
      ∀ e ∈ entries, ∃ y, Record.get? r e.1 = some y ∧ e.2.same y = true := by
  induction entries with
  | nil => simp [sameEntries]
  | cons e entries ih =>
    rw [sameEntries, Bool.and_eq_true, ih, List.forall_mem_cons]
    refine and_congr_left fun _ => ?_
    cases Record.get? r e.1 <;> simp

/-- The keys of an object are among those of one that is the same. -/
theorem keys_subset_of_sameEntries {entries : List (String × Json)} {r : Record}
    (h : sameEntries entries r = true) : Record.keys entries ⊆ Record.keys r := by
  intro key hkey
  obtain ⟨e, he, rfl⟩ := List.mem_map.1 hkey
  obtain ⟨y, hy, -⟩ := sameEntries_iff.1 h e he
  exact Record.get?_isSome_iff.1 (Option.isSome_iff_exists.2 ⟨y, hy⟩)

mutual

/-- **Sameness is symmetric** on values with distinct keys. -/
theorem same_symm : ∀ a b : Json, a.WellFormed → b.WellFormed → a.same b = true → b.same a = true
  | .null, .null, _, _, _ => rfl
  | .bool x, .bool y, _, _, h => by
    rw [same, beq_iff_eq] at h ⊢
    exact h.symm
  | .number x, .number y, _, _, h => by
    rw [same] at h ⊢
    rwa [y.same_comm x]
  | .string x, .string y, _, _, h => by
    rw [same, beq_iff_eq] at h ⊢
    exact h.symm
  | .array xs, .array ys, ha, hb, h => by
    rw [WellFormed] at ha hb
    rw [same] at h ⊢
    exact sameItems_symm xs ys ha hb h
  | .object xs, .object ys, ha, hb, h => by
    rw [WellFormed] at ha hb
    rw [same, Bool.and_eq_true, beq_iff_eq] at h ⊢
    obtain ⟨hlen, hentries⟩ := h
    refine ⟨hlen.symm, sameEntries_iff.2 fun e he => ?_⟩
    -- the key of the entry is among the keys of the first object, where its value is the same
    have hkey : e.1 ∈ Record.keys xs :=
      Record.mem_keys_of_subset ha.1 hlen (keys_subset_of_sameEntries hentries)
        (List.mem_map.2 ⟨e, he, rfl⟩)
    obtain ⟨x, hx⟩ := Option.isSome_iff_exists.1 (Record.get?_isSome_iff.2 hkey)
    have hmem := Record.mem_of_get?_eq_some hx
    obtain ⟨y, hy, hxy⟩ := sameEntries_iff.1 hentries _ hmem
    obtain rfl := Option.some.inj (hy.symm.trans (Record.get?_of_mem hb.1 he))
    exact ⟨x, hx, same_symm_of_mem xs _ hmem _ (wellFormedEntries_iff.1 ha.2 _ hmem)
      (wellFormedEntries_iff.1 hb.2 _ he) hxy⟩

theorem sameItems_symm : ∀ xs ys : List Json, WellFormedItems xs → WellFormedItems ys →
    sameItems xs ys = true → sameItems ys xs = true
  | [], [], _, _, _ => rfl
  | x :: xs, y :: ys, hxs, hys, h => by
    rw [WellFormedItems] at hxs hys
    rw [sameItems, Bool.and_eq_true] at h ⊢
    exact ⟨same_symm x y hxs.1 hys.1 h.1, sameItems_symm xs ys hxs.2 hys.2 h.2⟩

theorem same_symm_of_mem : ∀ entries : List (String × Json), ∀ e ∈ entries, ∀ b : Json,
    e.2.WellFormed → b.WellFormed → e.2.same b = true → b.same e.2 = true
  | (_, x) :: entries, e, he, b, hx, hb, h => by
    -- along the entries, to the one that was looked for
    rcases List.mem_cons.1 he with rfl | he
    · exact same_symm x b hx hb h
    · exact same_symm_of_mem entries e he b hx hb h

end

mutual

/-- **Sameness is transitive.** -/
theorem same_trans : ∀ a b c : Json, a.same b = true → b.same c = true → a.same c = true
  | .null, .null, .null, _, _ => rfl
  | .bool x, .bool y, .bool z, hab, hbc => by
    rw [same, beq_iff_eq] at hab hbc ⊢
    exact hab.trans hbc
  | .number x, .number y, .number z, hab, hbc => by
    rw [same] at hab hbc ⊢
    exact JsonNumber.same_trans hab hbc
  | .string x, .string y, .string z, hab, hbc => by
    rw [same, beq_iff_eq] at hab hbc ⊢
    exact hab.trans hbc
  | .array xs, .array ys, .array zs, hab, hbc => by
    rw [same] at hab hbc ⊢
    exact sameItems_trans xs ys zs hab hbc
  | .object xs, .object ys, .object zs, hab, hbc => by
    rw [same, Bool.and_eq_true, beq_iff_eq] at hab hbc ⊢
    refine ⟨hab.1.trans hbc.1, sameEntries_iff.2 fun e he => ?_⟩
    -- the entry is followed under its key from object to object
    obtain ⟨y, hy, hxy⟩ := sameEntries_iff.1 hab.2 e he
    obtain ⟨z, hz, hyz⟩ := sameEntries_iff.1 hbc.2 _ (Record.mem_of_get?_eq_some hy)
    exact ⟨z, hz, same_trans_of_mem xs e he y z hxy hyz⟩

theorem sameItems_trans : ∀ xs ys zs : List Json, sameItems xs ys = true →
    sameItems ys zs = true → sameItems xs zs = true
  | [], [], [], _, _ => rfl
  | x :: xs, y :: ys, z :: zs, hab, hbc => by
    rw [sameItems, Bool.and_eq_true] at hab hbc ⊢
    exact ⟨same_trans x y z hab.1 hbc.1, sameItems_trans xs ys zs hab.2 hbc.2⟩

theorem same_trans_of_mem : ∀ entries : List (String × Json), ∀ e ∈ entries, ∀ b c : Json,
    e.2.same b = true → b.same c = true → e.2.same c = true
  | (_, x) :: entries, e, he, b, c, hab, hbc => by
    rcases List.mem_cons.1 he with rfl | he
    · exact same_trans x b c hab hbc
    · exact same_trans_of_mem entries e he b c hab hbc

end

end Json

end Pushdown
