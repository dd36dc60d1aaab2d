import Mathlib.Data.List.Nodup
import Mathlib.Data.List.Perm.Subperm
import Pushdown.Json.Reader

/-!
# Entries of records

A record is a list of entries, and a look-up finds the first entry of a key. Where keys are distinct
it finds every entry, `get?_of_mem`. A record made up from entries with `Record.ofList` has all
their keys, but each of them once, so it has as many entries as it was made up from exactly if these
have distinct keys, `length_ofList_eq_iff`, and then it is the list of them. In entries that are
put together or picked out by their keys, a look-up is one in those they come from (`get?_append`,
`get?_filter`). Of several entries of a key the last is what it was made up with
(`get?_insertAll_reverse`).

What is left when a key is removed depends on the order of the entries: `Without` says it with
entries in their places, and `without_iff` that the removal does it. Look-ups depend on no order, as
long as keys are distinct (`get?_perm`), so a removal leaves the value of every other key as it was
(`get?_swapRemove`).
-/

namespace Pushdown.Record

/-! ### Look-ups -/

/-- An entry found is an entry. -/
theorem mem_of_get?_eq_some {r : Record} {key : String} {value : Json}
    (h : get? r key = some value) : (key, value) ∈ r := by
  induction r with
  | nil => exact absurd h nofun
  | cons e r ih =>
    rw [get?_cons] at h
    split at h
    case isTrue hkey =>
      obtain rfl := Option.some.inj h
      rw [← hkey]
      exact List.mem_cons_self
    case isFalse => exact List.mem_cons_of_mem e (ih h)

/-- Where keys are distinct, an entry is found under its key. -/
theorem get?_of_mem {r : Record} (hr : (keys r).Nodup) {key : String} {value : Json}
    (h : (key, value) ∈ r) : get? r key = some value := by
  induction r with
  | nil => exact absurd h List.not_mem_nil
  | cons e r ih =>
    rw [keys_cons, List.nodup_cons] at hr
    rw [get?_cons]
    rcases List.mem_cons.1 h with rfl | h
    · rw [if_pos rfl]
    · -- a later entry of the key: the first one has another, as keys are distinct
      rw [if_neg, ih hr.2 h]
      rintro rfl
      exact hr.1 (List.mem_map.2 ⟨_, h, rfl⟩)

theorem get?_eq_some_iff {r : Record} (hr : (keys r).Nodup) {key : String} {value : Json} :
    get? r key = some value ↔ (key, value) ∈ r :=
  ⟨mem_of_get?_eq_some, get?_of_mem hr⟩

theorem get?_eq_none_iff {r : Record} {key : String} :
    get? r key = none ↔ ∀ value, (key, value) ∉ r := by
  rw [← Option.not_isSome_iff_eq_none, get?_isSome_iff]
  constructor
  · intro h value hmem
    exact h (List.mem_map_of_mem hmem)
  · intro h hkey
    obtain ⟨⟨_, value⟩, hmem, rfl⟩ := List.mem_map.1 hkey
    exact h value hmem

theorem get?_append (r r' : Record) (key : String) :
    get? (r ++ r') key = (get? r key).or (get? r' key) := by
  induction r with
  | nil => rfl
  | cons e r ih =>
    rw [List.cons_append, get?_cons, get?_cons, ih]
    split
    case isTrue => rfl
    case isFalse => rfl

/-- Entries are kept by their keys, so a key keeps its value or loses it. -/
theorem get?_filter (r : Record) (p : String → Bool) (key : String) :
    get? (r.filter fun e => p e.1) key = if p key then get? r key else none := by
  induction r with
  | nil => exact (ite_self _).symm
  | cons e r ih =>
    rw [List.filter_cons, get?_cons]
    by_cases hkey : e.1 = key
    · -- the key of the first entry: `p` decides at once whether it is kept
      subst hkey
      rw [if_pos rfl]
      split
      case isTrue => rw [get?_cons, if_pos rfl]
      case isFalse hp => rw [ih, if_neg hp]
    · -- another key: the first entry does not matter, kept or dropped
      rw [if_neg hkey, ← ih]
      split
      case isTrue => rw [get?_cons, if_neg hkey]
      case isFalse => rfl

/-- A look-up in a record that has been tabulated. -/
theorem get?_map_mk (names : List String) (f : String → Json) (key : String) :
    get? (names.map fun name => (name, f name)) key =
      if key ∈ names then some (f key) else none := by
  induction names with
  | nil => rfl
  | cons name names ih =>
    rw [List.map_cons, get?_cons, ih]
    by_cases hname : name = key
    · subst hname
      rw [if_pos rfl, if_pos List.mem_cons_self]
    · -- the name passed over is not the key, so it does not count for membership
      have hmem : key ∈ name :: names ↔ key ∈ names :=
        List.mem_cons.trans (or_iff_right (Ne.symm hname))
      simp only [if_neg hname, hmem]

/-- **Keys that are among those of a record of the same size are all of its keys.** -/
theorem mem_keys_of_subset {r r' : Record} (hr : (keys r).Nodup) (hlen : r.length = r'.length)
    (hsub : keys r ⊆ keys r') {key : String} (h : key ∈ keys r') : key ∈ keys r := by
  have hle : (keys r').length ≤ (keys r).length := by
    simp only [keys, List.length_map]
    omega
  -- distinct keys that fit into a list no longer than theirs are that list, but for the order
  have hperm : (keys r).Perm (keys r') := (List.subperm_of_subset hr hsub).perm_of_length_le hle
  exact hperm.mem_iff.2 h

@[simp] theorem keys_map_mk (names : List String) (f : String → Json) :
    keys (names.map fun name => (name, f name)) = names := by
  unfold keys
  rw [List.map_map]
  exact List.map_id names

/-- A record is tabulated if its cells are what is tabulated. -/
theorem eq_map_mk_iff {r : Record} {names : List String} {f : String → Json} :
    r = names.map (fun name => (name, f name)) ↔ keys r = names ∧ ∀ e ∈ r, e.2 = f e.1 := by
  constructor
  · rintro rfl
    refine ⟨keys_map_mk names f, fun e he => ?_⟩
    obtain ⟨name, -, rfl⟩ := List.mem_map.1 he
    rfl
  · rintro ⟨rfl, hcells⟩
    unfold keys
    rw [List.map_map]
    refine ((List.map_congr_left fun e he => ?_).trans (List.map_id r)).symm
    exact Prod.ext rfl (hcells e he).symm

/-! ### Records from entries -/

theorem insert_of_notMem {r : Record} {key : String} (h : key ∉ keys r) (value : Json) :
    insert r key value = r ++ [(key, value)] := by
  induction r with
  | nil => rfl
  | cons e r ih =>
    rw [keys_cons, List.mem_cons, not_or] at h
    rw [insert, if_neg (Ne.symm h.1), ih h.2]
    rfl

theorem keys_append (r r' : Record) : keys (r ++ r') = keys r ++ keys r' := List.map_append

/-- Entries of new and distinct keys are inserted at the end. -/
theorem insertAll_of_nodup {r es : Record} (h : (keys (r ++ es)).Nodup) :
    insertAll r es = r ++ es := by
  induction es generalizing r with
  | nil => exact (List.append_nil r).symm
  | cons e es ih =>
    -- distinctness over the append is what makes the key new
    have hnew : e.1 ∉ keys r := by
      rw [keys_append, List.nodup_append] at h
      exact fun hmem => h.2.2 _ hmem _ List.mem_cons_self rfl
    have hsplit : r ++ e :: es = (r ++ [e]) ++ es := List.append_cons r e es
    rw [hsplit] at h ⊢
    change insertAll (r.insert e.1 e.2) es = _
    rw [insert_of_notMem hnew, ih h]

/-- **Entries of distinct keys are a record as they are.** -/
theorem ofList_of_nodup {es : Record} (h : (keys es).Nodup) : ofList es = es :=
  insertAll_of_nodup (r := []) h

theorem mem_keys_insertAll_iff {r es : Record} {key : String} :
    key ∈ keys (insertAll r es) ↔ key ∈ keys r ∨ key ∈ keys es := by
  induction es generalizing r with
  | nil => simp [insertAll]
  | cons e es ih =>
    change key ∈ keys (insertAll (r.insert e.1 e.2) es) ↔ _
    rw [ih, keys_insert]
    split
    -- a key that is there already adds none, and it stays in `keys r`
    case isTrue hmem =>
      rw [keys_cons, List.mem_cons, ← or_assoc]
      exact or_congr_left ⟨.inl, fun h => h.elim id fun heq => heq ▸ hmem⟩
    case isFalse => simp [or_assoc]

theorem mem_insert {r : Record} {key : String} {value : Json} {e : String × Json}
    (h : e ∈ insert r key value) : e ∈ r ∨ e = (key, value) := by
  induction r with
  | nil => exact .inr (List.mem_singleton.1 h)
  | cons e' r ih =>
    rw [insert] at h
    split at h
    case isTrue hkey =>
      rcases List.mem_cons.1 h with rfl | h
      · exact .inr (by rw [hkey])
      · exact .inl (List.mem_cons_of_mem _ h)
    case isFalse =>
      rcases List.mem_cons.1 h with rfl | h
      · exact .inl List.mem_cons_self
      · exact (ih h).imp_left (List.mem_cons_of_mem _)

/-- Insertions make up no entries. -/
theorem mem_insertAll {r es : Record} {e : String × Json} (h : e ∈ insertAll r es) :
    e ∈ r ∨ e ∈ es := by
  induction es generalizing r with
  | nil => exact .inl h
  | cons e' es ih =>
    rcases ih h with h | h
    · exact (mem_insert h).imp_right fun (heq : e = e') => heq ▸ List.mem_cons_self
    · exact .inr (List.mem_cons_of_mem e' h)

/-- **The last insertion counts**: after the insertion of entries a key has the last of its values
among them, or its old one. -/
theorem get?_insertAll_reverse (r es : Record) (key : String) :
    get? (insertAll r es) key = (get? es.reverse key).or (get? r key) := by
  induction es generalizing r with
  | nil => rfl
  | cons e es ih =>
    -- the induction is on the insertions, over any record they go into
    show get? (insertAll (r.insert e.1 e.2) es) key = _
    rw [ih, get?_insert, List.reverse_cons, get?_append, Option.or_assoc, get?_cons]
    split
    case isTrue => rfl
    case isFalse => rfl

/-- Where keys are distinct, a look-up does not depend on the order of the entries. -/
theorem get?_perm {r r' : Record} (hr : (keys r).Nodup) (h : r.Perm r') (key : String) :
    get? r key = get? r' key := by
  have hr' : (keys r').Nodup := (h.map Prod.fst).nodup_iff.1 hr
  apply Option.ext
  intro value
  rw [get?_eq_some_iff hr, get?_eq_some_iff hr', h.mem_iff]

/-- After the insertion of entries of distinct keys their keys have their values and every other key
its old one. -/
theorem get?_insertAll {r es : Record} (hes : (keys es).Nodup) (key : String) :
    get? (insertAll r es) key = (get? es key).or (get? r key) := by
  rw [get?_insertAll_reverse, get?_perm hes (List.reverse_perm es).symm]

/-- **A record has an entry for each of those it was made up from exactly if their keys are
distinct.** -/
theorem length_ofList_eq_iff {es : Record} :
    (ofList es).length = es.length ↔ (keys es).Nodup := by
  refine ⟨fun hlen => ?_, fun h => congrArg List.length (ofList_of_nodup h)⟩
  -- what was made up has only keys it was made up from,
  -- and being as many it has them all: a permutation, which keeps distinctness
  have hsub : keys (ofList es) ⊆ keys es := fun key hkey =>
    (mem_keys_insertAll_iff.1 hkey).resolve_left List.not_mem_nil
  have hperm : (keys (ofList es)).Perm (keys es) :=
    (List.subperm_of_subset (nodup_keys_ofList es) hsub).perm_of_length_le (by
      simp [keys, hlen])
  exact hperm.nodup (nodup_keys_ofList es)

/-! ### Removal -/

/-- **A record without a key**: the last entry moves into the place of the removed one. -/
inductive Without (key : String) : Record → Record → Prop where
  /-- The key is not there. -/
  | absent {r : Record} (h : key ∉ keys r) : Without key r r
  /-- It is the key of the last entry. -/
  | last {r : Record} {value : Json} : Without key (r ++ [(key, value)]) r
  /-- It is the key of an earlier entry. -/
  | swapped {r r' : Record} {value : Json} {e : String × Json} :
    Without key (r ++ (key, value) :: (r' ++ [e])) (r ++ e :: r')

/-- A removal begins with the first entry of the key. -/
theorem swapRemove_append {r : Record} {key : String} (h : key ∉ keys r) (r' : Record) :
    swapRemove (r ++ r') key = r ++ swapRemove r' key := by
  induction r with
  | nil => rfl
  | cons e r ih =>
    rw [keys_cons, List.mem_cons, not_or] at h
    rw [List.cons_append, swapRemove, if_neg (Ne.symm h.1), ih h.2]
    rfl

theorem swapRemove_of_notMem {r : Record} {key : String} (h : key ∉ keys r) :
    swapRemove r key = r := by
  have happend := swapRemove_append h []
  rwa [List.append_nil, swapRemove, List.append_nil] at happend

/-- **Removal by swap is removal**, where keys are distinct. -/
theorem without_iff {r r' : Record} {key : String} (hr : (keys r).Nodup) :
    Without key r r' ↔ r' = swapRemove r key := by
  -- nothing before the entry of the key has that key
  have hnew {before after : Record} {value : Json}
      (hr : (keys (before ++ (key, value) :: after)).Nodup) : key ∉ keys before := by
    rw [keys_append, keys_cons, List.nodup_append] at hr
    exact fun hmem => hr.2.2 key hmem key List.mem_cons_self rfl
  -- a removal drops the last entry, or fills the hole with it
  have hlast {before : Record} {value : Json} (h : key ∉ keys before) :
      swapRemove (before ++ [(key, value)]) key = before := by
    rw [swapRemove_append h, swapRemove, if_pos rfl]
    exact List.append_nil before
  have hswapped {before after : Record} {value : Json} {e : String × Json}
      (h : key ∉ keys before) :
      swapRemove (before ++ (key, value) :: (after ++ [e])) key = before ++ e :: after := by
    rw [swapRemove_append h, swapRemove, if_pos rfl, List.getLast?_concat]
    show before ++ e :: (after ++ [e]).dropLast = before ++ e :: after
    rw [List.dropLast_concat]
  constructor
  · intro h
    cases h with
    | absent h => exact (swapRemove_of_notMem h).symm
    | last => exact (hlast (hnew hr)).symm
    | swapped => exact (hswapped (hnew hr)).symm
  · rintro rfl
    -- where the key stands decides the case of `Without`
    by_cases hkey : key ∈ keys r
    · obtain ⟨⟨_, value⟩, hmem, rfl⟩ := List.mem_map.1 hkey
      obtain ⟨before, after, rfl⟩ := List.append_of_mem hmem
      rcases List.eq_nil_or_concat after with rfl | ⟨after, e, rfl⟩
      · rw [hlast (hnew hr)]
        exact .last
      · rw [List.concat_eq_append] at hr ⊢
        rw [hswapped (hnew hr)]
        exact .swapped
    · rw [swapRemove_of_notMem hkey]
      exact .absent hkey

/-- A removal makes up no entries. -/
theorem Without.mem {r r' : Record} {key : String} (h : Without key r r') {e : String × Json}
    (he : e ∈ r') : e ∈ r := by
  cases h with
  | absent => exact he
  | last => exact List.mem_append_left _ he
  | swapped =>
    simp only [List.mem_append, List.mem_cons] at he ⊢
    tauto

/-- **A removal takes one entry away and moves others**, or changes nothing. -/
theorem Without.perm {r r' : Record} {key : String} (h : Without key r r') :
    (∃ value, r.Perm ((key, value) :: r')) ∨ key ∉ keys r ∧ r' = r := by
  cases h with
  | absent h => exact .inr ⟨h, rfl⟩
  -- the removed entry was the last: what is left stands as it stood
  | @last _ value => exact .inl ⟨value, List.perm_append_singleton _ _⟩
  | @swapped before after value e =>
    -- the last entry moved into the hole, past everything between
    have hmoved : (after ++ [e]).Perm (e :: after) := List.perm_append_singleton e after
    exact .inl ⟨value, List.perm_middle.trans ((hmoved.append_left before).cons _)⟩

/-- **A key that was removed has no value**, every other key its old one, and keys stay distinct. -/
theorem get?_swapRemove {r : Record} (hr : (keys r).Nodup) (key : String) :
    (keys (swapRemove r key)).Nodup ∧
      ∀ key', get? (swapRemove r key) key' = if key = key' then none else get? r key' := by
  have hwithout : Without key r (swapRemove r key) := (without_iff hr).2 rfl
  obtain ⟨hnodup, hkey, hothers⟩ : (keys (swapRemove r key)).Nodup ∧
      key ∉ keys (swapRemove r key) ∧
      ∀ key', key ≠ key' → get? (swapRemove r key) key' = get? r key' := by
    -- both are read off the permutation, so the place of the removed entry plays no part
    rcases hwithout.perm with ⟨value, hperm⟩ | ⟨hkey, heq⟩
    · have hcons : (keys ((key, value) :: swapRemove r key)).Nodup :=
        (hperm.map Prod.fst).nodup_iff.1 hr
      obtain ⟨hkey, hnodup⟩ := List.nodup_cons.1 hcons
      refine ⟨hnodup, hkey, fun key' hne => ?_⟩
      rw [get?_perm hr hperm, get?_cons, if_neg hne]
    · rw [heq]
      exact ⟨hr, hkey, fun _ _ => rfl⟩
  refine ⟨hnodup, fun key' => ?_⟩
  split
  case isTrue heq => exact heq ▸ Option.not_isSome_iff_eq_none.1 (mt get?_isSome_iff.1 hkey)
  case isFalse hne => exact hothers key' hne

end Pushdown.Record

namespace Pushdown.Json

/-! ### Distinct keys -/

/-- The values of a well-formed object are well formed. -/
theorem wellFormed_of_mem {r : Record} (hr : (object r).WellFormed) {key : String} {v : Json}
    (h : (key, v) ∈ r) : v.WellFormed := by
  -- distinct keys are not needed here, and would be in the way of the induction
  have hvalues : WellFormedEntries r := hr.2
  clear hr
  induction r with
  | nil => exact absurd h List.not_mem_nil
  | cons e r ih =>
    rcases List.mem_cons.1 h with rfl | h
    · exact hvalues.1
    · exact ih h hvalues.2

/-- The items of a well-formed array are well formed. -/
theorem wellFormed_of_mem_items {items : List Json} (h : (array items).WellFormed) {v : Json}
    (hv : v ∈ items) : v.WellFormed := by
  have hitems : WellFormedItems items := h
  clear h
  induction items with
  | nil => exact absurd hv List.not_mem_nil
  | cons item items ih =>
    rcases List.mem_cons.1 hv with rfl | hv
    · exact hitems.1
    · exact ih hv hitems.2

/-- An object that was read has distinct keys. -/
theorem nodup_keys_of_read? {text : String} {r : Record} (h : read? text = some (.object r)) :
    (Record.keys r).Nodup := by
  unfold read? read at h
  cases hwritten : readAsWritten text.toList with
  | error e =>
    rw [hwritten] at h
    exact absurd h nofun
  | ok v =>
    rw [hwritten] at h
    -- reading settles what was written: an object is made up from its entries
    have hsettled : settled v = .object r := Option.some.inj h
    cases v with
    | object entries =>
      rw [settled] at hsettled
      exact Json.object.inj hsettled ▸ Record.nodup_keys_ofList _
    | null | bool | number | string | array => exact absurd hsettled (by simp [settled])

end Pushdown.Json
