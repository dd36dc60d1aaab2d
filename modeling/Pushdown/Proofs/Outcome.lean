import Mathlib.Data.List.Forall2

/-!
# Steps that can fail

A computation that can fail succeeds exactly when each of its steps does. The lemmas here take the
success of a sequence of steps, of a check of every item of a list and of a function applied to
every item apart into the success of the single steps. The results of a function applied to every
item are related to the items one by one, and the last lemmas are about such relations. What a
computation can fail with is what its steps can fail with, `FailsOnly`; and if of two computations
each step comes to the same but for the words of a failure, so do the computations.
-/

namespace Pushdown

variable {ε α β : Type}

theorem bind_eq_ok_iff {x : Except ε α} {f : α → Except ε β} {b : β} :
    x >>= f = .ok b ↔ ∃ a, x = .ok a ∧ f a = .ok b := by
  cases x <;> simp [bind, Except.bind]

theorem map_eq_ok_iff {x : Except ε α} {f : α → β} {b : β} :
    x.map f = .ok b ↔ ∃ a, x = .ok a ∧ f a = b := by
  cases x <;> simp [Except.map]

/-- What follows a step counts only at the result of the step. -/
theorem bind_congr_of_ok {x : Except ε α} {f g : α → Except ε β}
    (h : ∀ a, x = .ok a → f a = g a) : x >>= f = x >>= g := by
  cases x with
  | ok a => exact h a rfl
  | error e => rfl

/-- A refusal in front of a step has to be passed. -/
theorem refusal_eq_ok_iff {p : Prop} [Decidable p] {e : ε} {x : Except ε α} {a : α} :
    (if p then (throw e >>= fun (_ : PUnit) => x) else x) = .ok a ↔ ¬ p ∧ x = .ok a := by
  split
  case isTrue h => exact iff_of_false nofun fun hnot => hnot.1 h
  case isFalse h => exact (and_iff_right h).symm

theorem discard_eq_ok_iff {x : Except ε α} : discard x = .ok () ↔ ∃ a, x = .ok a := by
  cases x <;> simp [discard, Functor.mapConst, Except.map]

/-- A check of every item succeeds exactly when the check of each does. -/
theorem forM_eq_ok_iff {f : α → Except ε PUnit} {items : List α} :
    items.forM f = .ok () ↔ ∀ a ∈ items, f a = .ok () := by
  induction items with
  | nil => simp [List.forM, pure, Except.pure]
  | cons a items ih =>
    -- the checks come one after another, the result of each is thrown away
    change (f a >>= fun _ => items.forM f) = _ ↔ _
    rw [bind_eq_ok_iff, List.forall_mem_cons, ← ih]
    exact ⟨fun ⟨_, ha, h⟩ => ⟨ha, h⟩, fun ⟨ha, h⟩ => ⟨(), ha, h⟩⟩

/-- A function on every item succeeds exactly when it does on each, and gives their results in
order. -/
theorem mapM_eq_ok_iff {f : α → Except ε β} {items : List α} {results : List β} :
    items.mapM f = .ok results ↔ List.Forall₂ (fun a b => f a = .ok b) items results := by
  induction items generalizing results with
  | nil => simp [pure, Except.pure, eq_comm]
  | cons a items ih =>
    rw [List.mapM_cons, bind_eq_ok_iff, List.forall₂_cons_left_iff]
    constructor
    · rintro ⟨b, hb, h⟩
      obtain ⟨rest, hrest, h⟩ := bind_eq_ok_iff.1 h
      -- the first failure would have ended the run, so there is none before `rest`
      exact ⟨b, rest, hb, ih.1 hrest, (Except.ok.inj h).symm⟩
    · rintro ⟨b, rest, hb, hrest, rfl⟩
      exact ⟨b, hb, bind_eq_ok_iff.2 ⟨rest, ih.2 hrest, rfl⟩⟩

/-- A step that gives back every item as it is. -/
theorem mapM_ok (items : List α) : items.mapM (Except.ok : α → Except ε α) = .ok items :=
  mapM_eq_ok_iff.2 (List.forall₂_same.2 fun _ _ => rfl)

/-- A function on every item fails with the failure of one of them, unless it succeeds on each. -/
theorem mapM_cases (f : α → Except ε β) (items : List α) :
    (∀ a ∈ items, ∃ b, f a = .ok b) ∨
      ∃ a ∈ items, ∃ e, f a = .error e ∧ items.mapM f = .error e := by
  induction items with
  | nil => exact .inl nofun
  | cons a items ih =>
    rw [List.mapM_cons]
    cases ha : f a with
    -- the first that fails ends the run: the items behind it are not looked at
    | error e => exact .inr ⟨a, List.mem_cons_self, e, ha, rfl⟩
    | ok b =>
      rcases ih with hitems | ⟨a', ha', e, he, hitems⟩
      · exact .inl (List.forall_mem_cons.2 ⟨⟨b, ha⟩, hitems⟩)
      · exact .inr ⟨a', List.mem_cons_of_mem a ha', e, he, by rw [hitems]; rfl⟩

/-- Where success means a condition and one result, success on every item means the condition on
every item and the results of all. -/
theorem forall₂_eq_ok_iff {f : α → Except ε β} {p : α → Prop} {g : α → β} {items : List α}
    (hf : ∀ a ∈ items, ∀ b, f a = .ok b ↔ p a ∧ b = g a) {results : List β} :
    List.Forall₂ (fun a b => f a = .ok b) items results ↔
      (∀ a ∈ items, p a) ∧ results = items.map g := by
  induction items generalizing results with
  | nil => simp
  | cons a items ih =>
    obtain ⟨ha, hitems⟩ := List.forall_mem_cons.1 hf
    rw [List.forall₂_cons_left_iff, List.forall_mem_cons, List.map_cons]
    constructor
    · rintro ⟨b, rest, hb, hrest, rfl⟩
      obtain ⟨hp, rfl⟩ := (ha b).1 hb
      obtain ⟨hall, rfl⟩ := (ih hitems).1 hrest
      exact ⟨⟨hp, hall⟩, rfl⟩
    · rintro ⟨⟨hp, hall⟩, rfl⟩
      exact ⟨_, _, (ha _).2 ⟨hp, rfl⟩, (ih hitems).2 ⟨hall, rfl⟩, rfl⟩

/-! ### Success without the result -/

section

variable {x : Except ε α}

/-- A step that gives a result. -/
def IsOk (x : Except ε α) : Prop := ∃ a, x = .ok a

theorem isOk_ok {a : α} : IsOk (.ok a : Except ε α) := ⟨a, rfl⟩

theorem isOk_pure {a : α} : IsOk (pure a : Except ε α) := ⟨a, rfl⟩

theorem not_isOk_error {e : ε} : ¬ IsOk (.error e : Except ε α) := nofun

theorem isOk_map_iff {f : α → β} : IsOk (x.map f) ↔ IsOk x := by
  cases x <;> simp [IsOk, Except.map]

/-- Two steps, if whether the second gives a result does not depend on that of the first. -/
theorem isOk_bind_iff {f : α → Except ε β} {p : Prop} (hf : ∀ a, IsOk (f a) ↔ p) :
    IsOk (x >>= f) ↔ IsOk x ∧ p := by
  -- whether `f` succeeds is the same for all results, so the one of `x` need not be known
  cases x with
  | ok a => exact (hf a).trans (and_iff_right isOk_ok).symm
  | error e => exact iff_of_false not_isOk_error fun h => not_isOk_error h.1

/-- The same step for every item of a list. -/
theorem isOk_mapM_iff {f : α → Except ε β} {items : List α} :
    IsOk (items.mapM f) ↔ ∀ a ∈ items, IsOk (f a) := by
  induction items with
  | nil => exact iff_of_true isOk_pure nofun
  | cons a items ih =>
    rw [List.mapM_cons, List.forall_mem_cons, ← ih, isOk_bind_iff fun b =>
      isOk_bind_iff fun rest => iff_true_intro isOk_pure, and_true]

/-- A refusal in front of a step. -/
theorem isOk_refusal_iff {p : Prop} [Decidable p] {e : ε} :
    IsOk (if p then (throw e >>= fun (_ : PUnit) => x) else x) ↔ ¬ p ∧ IsOk x := by
  split
  case isTrue h => exact iff_of_false not_isOk_error fun hnot => hnot.1 h
  case isFalse h => exact (and_iff_right h).symm

end

/-! ### Kinds of failures -/

section

variable {p : ε → Prop} {x : Except ε α}

/-- **A step whose failures are all of one kind.** -/
def FailsOnly (p : ε → Prop) (x : Except ε α) : Prop := ∀ e, x = .error e → p e

theorem failsOnly_ok {a : α} : FailsOnly p (.ok a) := nofun

theorem failsOnly_pure {a : α} : FailsOnly p (pure a) := nofun

theorem failsOnly_error {e : ε} (h : p e) : FailsOnly p (.error e : Except ε α) := fun _ he =>
  Except.error.inj he ▸ h

theorem FailsOnly.map (hx : FailsOnly p x) (f : α → β) : FailsOnly p (x.map f) := by
  cases x with
  | ok a => exact failsOnly_ok
  | error e => exact failsOnly_error (hx e rfl)

theorem FailsOnly.bind {f : α → Except ε β} (hx : FailsOnly p x) (hf : ∀ a, FailsOnly p (f a)) :
    FailsOnly p (x >>= f) := by
  cases x with
  | ok a => exact hf a
  | error e => exact failsOnly_error (hx e rfl)

theorem failsOnly_mapM {f : α → Except ε β} (hf : ∀ a, FailsOnly p (f a)) (items : List α) :
    FailsOnly p (items.mapM f) := by
  induction items with
  | nil => exact failsOnly_pure
  | cons a items ih =>
    rw [List.mapM_cons]
    exact (hf a).bind fun b => ih.bind fun rest => failsOnly_pure

theorem failsOnly_forM {f : α → Except ε PUnit} (hf : ∀ a, FailsOnly p (f a)) (items : List α) :
    FailsOnly p (items.forM f) := by
  induction items with
  | nil => exact failsOnly_pure
  | cons a items ih => exact (hf a).bind fun _ => ih

end

/-! ### Results up to what is made of them -/

section

variable {γ : Type} {k : β → γ}

theorem map_bind_congr {x : Except ε α} {f g : α → Except ε β}
    (h : ∀ a, x = .ok a → (f a).map k = (g a).map k) : (x >>= f).map k = (x >>= g).map k := by
  cases x with
  | ok a => exact h a rfl
  | error e => rfl

theorem map_refusal_congr {p : Prop} [Decidable p] {e : ε} {x y : Except ε β}
    (h : x.map k = y.map k) :
    (if p then (throw e >>= fun (_ : PUnit) => x) else x).map k =
      (if p then (throw e >>= fun (_ : PUnit) => y) else y).map k := by
  split
  case isTrue => rfl
  case isFalse => exact h

end

/-! ### Failures up to their kind -/

section

variable {δ : Type} {kind : ε → δ}

/-- Steps that come to the same, but for failures of the same kind. -/
theorem mapError_bind_congr {x y : Except ε α} {f g : α → Except ε β}
    (hxy : x.mapError kind = y.mapError kind)
    (hfg : ∀ a, (f a).mapError kind = (g a).mapError kind) :
    (x >>= f).mapError kind = (y >>= g).mapError kind := by
  -- steps that agree up to the kind of a failure both succeed or both fail
  cases x with
  | ok a =>
    cases y with
    | ok b => exact Except.ok.inj hxy ▸ hfg a
    | error e => exact absurd hxy nofun
  | error e =>
    cases y with
    | ok b => exact absurd hxy nofun
    | error e' => exact congrArg Except.error (Except.error.inj hxy)

theorem mapError_map_congr {x y : Except ε α} (hxy : x.mapError kind = y.mapError kind)
    (f : α → β) : (x.map f).mapError kind = (y.map f).mapError kind :=
  mapError_bind_congr (f := fun a => .ok (f a)) hxy fun _ => rfl

/-- The same for every item of related lists. -/
theorem mapError_mapM_congr {α' : Type} {f : α → Except ε β} {g : α' → Except ε β} {items : List α}
    {items' : List α'} (h : List.Forall₂
      (fun a a' => (f a).mapError kind = (g a').mapError kind) items items') :
    (items.mapM f).mapError kind = (items'.mapM g).mapError kind := by
  induction h with
  | nil => rfl
  | cons ha _ ih =>
    rw [List.mapM_cons, List.mapM_cons]
    exact mapError_bind_congr ha fun b => mapError_bind_congr ih fun rest => rfl

end

/-- Equality of results can be decided where that of failures cannot. -/
theorem eq_ok_of_toOption {x : Except ε α} {a : α} (h : x.toOption = some a) : x = .ok a := by
  cases x with
  | ok b => exact congrArg _ (Option.some.inj h)
  | error e => exact absurd h nofun

/-! ### Lists related item by item -/

variable {R : α → β → Prop} {items : List α} {results : List β}

theorem exists_of_mem_left (h : List.Forall₂ R items results) {a : α} (ha : a ∈ items) :
    ∃ b ∈ results, R a b := by
  obtain ⟨k, hk, rfl⟩ := List.mem_iff_getElem.1 ha
  have hk' : k < results.length := h.length_eq ▸ hk
  exact ⟨results[k], List.getElem_mem hk', h.get hk hk'⟩

/-- Something is related to every item exactly if a list is to the items. -/
theorem exists_forall₂_iff :
    (∃ results, List.Forall₂ R items results) ↔ ∀ a ∈ items, ∃ b, R a b := by
  constructor
  · rintro ⟨results, h⟩ a ha
    obtain ⟨b, -, hab⟩ := exists_of_mem_left h ha
    exact ⟨b, hab⟩
  · intro h
    -- on the items: results for all are put together from one for each
    induction items with
    | nil => exact ⟨[], .nil⟩
    | cons a items ih =>
      obtain ⟨⟨b, hab⟩, hitems⟩ := List.forall_mem_cons.1 h
      obtain ⟨rest, hrest⟩ := ih hitems
      exact ⟨b :: rest, .cons hab hrest⟩

/-- What is related to two lists, one behind the other, is what is related to the one and what is
related to the other. -/
theorem forall₂_append_left_iff {items' : List α} : List.Forall₂ R (items ++ items') results ↔
    ∃ first second, List.Forall₂ R items first ∧ List.Forall₂ R items' second ∧
      results = first ++ second := by
  constructor
  · intro h
    -- on the first list: what it takes is cut off the front of the results
    induction items generalizing results with
    | nil => exact ⟨[], results, .nil, h, rfl⟩
    | cons a items ih =>
      obtain ⟨b, rest, hab, hrest, rfl⟩ := List.forall₂_cons_left_iff.1 h
      obtain ⟨first, second, hfirst, hsecond, rfl⟩ := ih hrest
      exact ⟨b :: first, second, .cons hab hfirst, hsecond, rfl⟩
  · rintro ⟨first, second, hfirst, hsecond, rfl⟩
    exact List.rel_append hfirst hsecond

/-- Functions with the same results on related items. -/
theorem map_eq_map_of_forall₂ {γ : Type} {f : α → γ} {g : β → γ} (h : List.Forall₂ R items results)
    (hfg : ∀ a b, R a b → f a = g b) : items.map f = results.map g := by
  rw [← List.forall₂_eq_eq_eq, List.forall₂_map_left_iff, List.forall₂_map_right_iff]
  exact h.imp hfg

/-- A relation counts only at the items. -/
theorem forall₂_congr_of_mem {S : α → β → Prop} (h : ∀ a ∈ items, ∀ b, R a b ↔ S a b) :
    List.Forall₂ R items results ↔ List.Forall₂ S items results := by
  -- one direction suffices, as `R` and `S` may change places
  have himp {R S : α → β → Prop} (h : ∀ a ∈ items, ∀ b, R a b → S a b)
      (hR : List.Forall₂ R items results) : List.Forall₂ S items results :=
    ((List.forall₂_and_left items results).2 ⟨h, hR⟩).imp fun a b hab => hab.1 b hab.2
  exact ⟨himp fun a ha b => (h a ha b).1, himp fun a ha b => (h a ha b).2⟩

/-- A condition on the results is one for each pair. -/
theorem forall₂_and_right {p : β → Prop} :
    List.Forall₂ (fun a b => R a b ∧ p b) items results ↔
      List.Forall₂ R items results ∧ ∀ b ∈ results, p b := by
  constructor
  · intro h
    induction h with
    | nil => exact ⟨.nil, nofun⟩
    | cons hab _ ih => exact ⟨.cons hab.1 ih.1, List.forall_mem_cons.2 ⟨hab.2, ih.2⟩⟩
  · rintro ⟨hR, hp⟩
    induction hR with
    | nil => exact .nil
    | cons hab _ ih =>
      obtain ⟨hb, hrest⟩ := List.forall_mem_cons.1 hp
      exact .cons ⟨hab, hb⟩ (ih hrest)

theorem exists_of_mem_right (h : List.Forall₂ R items results) {b : β} (hb : b ∈ results) :
    ∃ a ∈ items, R a b := exists_of_mem_left h.flip hb

end Pushdown
