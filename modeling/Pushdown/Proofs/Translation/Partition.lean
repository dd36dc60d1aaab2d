import Mathlib.Data.List.Nodup
import Pushdown.Proofs.Outcome
import Pushdown.Translation

/-!
# Every condition has one place

The division of conditions puts each of them in one of three places: with those that ask for a
search, with those the dialect expresses, or with those left over. `Partition.Divides` says which,
without saying how the division proceeds: the conditions of each place are the subsequence that
belongs there, the expressed ones are rendered one by one, and there is at most one search, an
equality with a vector. `partitionConditions_eq_ok_iff` says that the division succeeds exactly
then, and with exactly these parts, so what a dialect refuses and what it loses are both read off.

A translation is a division whose parts are put together. Expressions can always be joined.
Parameters cannot if two of them have the same name (`ParameterDialect.conjoin_nil_eq_ok_iff`), and
that is the one reason to refuse conditions each of which could be sent.
-/

namespace Pushdown

open Number

variable {α : Type} {rules : Rules α} {found : Option Similarity} {cs : Conditions}
  {part : Partition α}

namespace Rules

/-- The condition asks for a search. -/
def searches (rules : Rules α) (c : Condition) : Bool := rules.similarityColumn == some c.column

/-- The condition is for the remote side to check. -/
def pushes (rules : Rules α) (c : Condition) : Bool := !rules.searches c && rules.isPushable c

/-- The condition is left over. -/
def leaves (rules : Rules α) (c : Condition) : Bool := !rules.searches c && !rules.isPushable c

end Rules

/-- **The vector that a condition gives**: the numbers of a list, or of the list that a text holds
as JSON, in single precision. There is at least one. -/
def Condition.GivesVector (c : Condition) (vector : List Double) : Prop :=
  ∃ (value : Json) (numbers : List JsonNumber), c.operand = .scalar value ∧ numbers ≠ [] ∧
    (value = .array (numbers.map .number) ∨ ∃ text, value = .string text ∧
      Json.read? text = some (.array (numbers.map .number))) ∧
    vector = numbers.map fun n => n.toDouble.toSingle

/-- **The search that conditions on the search column come to**, given the one found before them: at
most one of them, an equality with a vector. -/
def SearchOf (found : Option Similarity) : (searching : Conditions) → Option Similarity → Prop
  | [], search => search = found
  | [c], search =>
    found = none ∧ c.op = .eq ∧ ∃ vector, c.GivesVector vector ∧ search = some ⟨c.column, vector⟩
  | _ :: _ :: _, _ => False

/-- **Conditions and what they are divided into**, given the search found before them. -/
structure Partition.Divides (rules : Rules α) (found : Option Similarity) (cs : Conditions)
    (part : Partition α) : Prop where
  /-- The conditions for the remote side are rendered, one by one and in order. -/
  parts : List.Forall₂ (fun c a => rules.render c = .ok a) (cs.filter rules.pushes) part.parts
  /-- The conditions left over are those that are not for the remote side, in order. -/
  residual : part.residual = cs.filter rules.leaves
  /-- The search is the one that the conditions on its column ask for. -/
  similarity : SearchOf found (cs.filter rules.searches) part.similarity

/-! ### Vectors -/

section Vectors

variable {column : String} {value : Json} {items : List Json} {c : Condition} {vector : List Double}

theorem vectorItem_eq_ok_iff {x : Double} : vectorItem column value = .ok x ↔
    ∃ n, value = .number n ∧ x = n.toDouble.toSingle := by
  cases value with
  | number n => simp [vectorItem, eq_comm]
  | null | bool | string | array | object => simp [vectorItem]

/-- The items of a vector are numbers. -/
theorem mapM_vectorItem_eq_ok_iff : items.mapM (vectorItem column) = .ok vector ↔
    ∃ numbers : List JsonNumber, items = numbers.map .number ∧
      vector = numbers.map fun n => n.toDouble.toSingle := by
  rw [mapM_eq_ok_iff]
  constructor
  · -- items and numbers side by side
    intro h
    induction h with
    | nil => exact ⟨[], rfl, rfl⟩
    | cons hitem _ ih =>
      obtain ⟨n, rfl, rfl⟩ := vectorItem_eq_ok_iff.1 hitem
      obtain ⟨numbers, rfl, rfl⟩ := ih
      exact ⟨n :: numbers, rfl, rfl⟩
  · rintro ⟨numbers, rfl, rfl⟩
    rw [List.forall₂_map_left_iff, List.forall₂_map_right_iff, List.forall₂_same]
    exact fun n _ => rfl

theorem vectorSource?_eq_array_iff : vectorSource? value = some (.array items) ↔
    value = .array items ∨
      ∃ text, value = .string text ∧ Json.read? text = some (.array items) := by
  cases value with
  | string text => simp [vectorSource?]
  | null | bool | number | array | object => simp [vectorSource?]

/-- **A condition has a vector exactly if it gives one.** -/
theorem vectorOf_eq_ok_iff : vectorOf c = .ok vector ↔ c.GivesVector vector := by
  constructor
  · intro h
    unfold vectorOf at h
    dsimp only at h
    split at h
    case h_1 => exact absurd h nofun
    case h_2 item items hsource =>
      obtain ⟨numbers, hitems, rfl⟩ := mapM_vectorItem_eq_ok_iff.1 h
      rw [hitems] at hsource
      have hne : numbers ≠ [] := fun hnil => List.cons_ne_nil item items (by rw [hitems, hnil]; rfl)
      -- an operand that is a list of values has no vector in it
      cases hoperand : c.operand with
      | scalar value =>
        rw [hoperand] at hsource
        exact ⟨value, numbers, hoperand, hne, vectorSource?_eq_array_iff.1 hsource, rfl⟩
      | list vs =>
        rw [hoperand] at hsource
        exact absurd (vectorSource?_eq_array_iff.1 hsource) (by simp [Operand.scalar?])
    case h_3 => exact absurd h nofun
  · rintro ⟨value, numbers, hoperand, hne, hvalue, rfl⟩
    obtain ⟨n, numbers, rfl⟩ := List.exists_cons_of_ne_nil hne
    unfold vectorOf
    dsimp only
    rw [hoperand, Operand.scalar?, Option.getD_some, vectorSource?_eq_array_iff.2 hvalue]
    exact mapM_vectorItem_eq_ok_iff.2 ⟨_, rfl, rfl⟩

end Vectors

/-! ### Steps -/

/-- A search that was found is the only one. -/
theorem searchOf_some_iff {s : Similarity} {searching : Conditions} {search : Option Similarity} :
    SearchOf (some s) searching search ↔ searching = [] ∧ search = some s := by
  match searching with
  | [] => simp [SearchOf]
  | [c] => simp [SearchOf]
  | _ :: _ :: _ => simp [SearchOf]

/-- One condition more asks for the search, or the search is asked for behind it. -/
theorem searchOf_none_cons_iff {c : Condition} {searching : Conditions}
    {search : Option Similarity} :
    SearchOf none (c :: searching) search ↔ c.op = .eq ∧
      ∃ vector, c.GivesVector vector ∧ SearchOf (some ⟨c.column, vector⟩) searching search := by
  simp only [searchOf_some_iff]
  match searching with
  | [] => simp [SearchOf]
  | _ :: _ => simp [SearchOf]

section Step

variable {c : Condition}

theorem divides_cons_searches (h : rules.searches c = true) :
    Partition.Divides rules found (c :: cs) part ↔ found = none ∧ c.op = .eq ∧
      ∃ vector, c.GivesVector vector ∧
        Partition.Divides rules (some ⟨c.column, vector⟩) cs part := by
  -- the condition is in neither of the other two places
  have hpushes : rules.pushes c = false := by simp [Rules.pushes, h]
  have hleaves : rules.leaves c = false := by simp [Rules.leaves, h]
  constructor
  · rintro ⟨hparts, hresidual, hsearch⟩
    rw [List.filter_cons_of_neg (by simp [hpushes])] at hparts
    rw [List.filter_cons_of_neg (by simp [hleaves])] at hresidual
    rw [List.filter_cons_of_pos h] at hsearch
    cases found with
    | some s => exact absurd (searchOf_some_iff.1 hsearch).1 (by simp)
    | none =>
      -- the search behind is the one found here
      obtain ⟨hop, vector, hvector, hrest⟩ := searchOf_none_cons_iff.1 hsearch
      exact ⟨rfl, hop, vector, hvector, hparts, hresidual, hrest⟩
  · rintro ⟨rfl, hop, vector, hvector, hparts, hresidual, hsearch⟩
    refine ⟨?_, ?_, ?_⟩
    · rwa [List.filter_cons_of_neg (by simp [hpushes])]
    · rwa [List.filter_cons_of_neg (by simp [hleaves])]
    · rw [List.filter_cons_of_pos h]
      exact searchOf_none_cons_iff.2 ⟨hop, vector, hvector, hsearch⟩

theorem divides_cons_pushes (h : rules.searches c = false) (hpush : rules.isPushable c = true) :
    Partition.Divides rules found (c :: cs) part ↔
      ∃ a rest, rules.render c = .ok a ∧ Partition.Divides rules found cs rest ∧
        part = { rest with parts := a :: rest.parts } := by
  have hpushes : rules.pushes c = true := by simp [Rules.pushes, h, hpush]
  have hleaves : rules.leaves c = false := by simp [Rules.leaves, hpush]
  constructor
  · rintro ⟨hparts, hresidual, hsearch⟩
    rw [List.filter_cons_of_pos hpushes] at hparts
    rw [List.filter_cons_of_neg (by simp [hleaves])] at hresidual
    rw [List.filter_cons_of_neg (by simp [h])] at hsearch
    -- its part comes first, and the others are those of the conditions behind
    obtain ⟨a, parts, ha, hrest, heq⟩ := List.forall₂_cons_left_iff.1 hparts
    exact ⟨a, ⟨parts, part.residual, part.similarity⟩, ha, ⟨hrest, hresidual, hsearch⟩, by
      rw [← heq]⟩
  · rintro ⟨a, rest, ha, ⟨hparts, hresidual, hsearch⟩, rfl⟩
    refine ⟨?_, ?_, ?_⟩
    · rw [List.filter_cons_of_pos hpushes]
      exact hparts.cons ha
    · rwa [List.filter_cons_of_neg (by simp [hleaves])]
    · rwa [List.filter_cons_of_neg (by simp [h])]

theorem divides_cons_leaves (h : rules.searches c = false) (hpush : rules.isPushable c = false) :
    Partition.Divides rules found (c :: cs) part ↔
      ∃ rest, Partition.Divides rules found cs rest ∧
        part = { rest with residual := c :: rest.residual } := by
  have hpushes : rules.pushes c = false := by simp [Rules.pushes, hpush]
  have hleaves : rules.leaves c = true := by simp [Rules.leaves, h, hpush]
  constructor
  · rintro ⟨hparts, hresidual, hsearch⟩
    rw [List.filter_cons_of_neg (by simp [hpushes])] at hparts
    rw [List.filter_cons_of_pos hleaves] at hresidual
    rw [List.filter_cons_of_neg (by simp [h])] at hsearch
    -- it is the first of those left over
    exact ⟨⟨part.parts, cs.filter rules.leaves, part.similarity⟩, ⟨hparts, rfl, hsearch⟩, by
      rw [← hresidual]⟩
  · rintro ⟨rest, ⟨hparts, hresidual, hsearch⟩, rfl⟩
    refine ⟨?_, ?_, ?_⟩
    · rwa [List.filter_cons_of_neg (by simp [hpushes])]
    · rw [List.filter_cons_of_pos hleaves, ← hresidual]
    · rwa [List.filter_cons_of_neg (by simp [h])]

end Step

/-- **The division succeeds exactly with the parts that belong to the conditions.** -/
theorem partitionConditions_eq_ok_iff :
    partitionConditions rules found cs = .ok part ↔ Partition.Divides rules found cs part := by
  induction cs generalizing found part with
  | nil =>
    constructor
    · intro h
      obtain rfl := Except.ok.inj h
      exact ⟨.nil, rfl, rfl⟩
    · rintro ⟨hparts, hresidual, hsearch⟩
      cases part
      cases hparts
      cases hresidual
      cases hsearch
      rfl
  | cons c cs ih =>
    unfold partitionConditions
    by_cases hsearch : rules.similarityColumn = some c.column
    · rw [if_pos hsearch, divides_cons_searches (by simp [Rules.searches, hsearch])]
      -- a second search is refused, and so is one that is no equality with a vector
      cases found with
      | some s => simp
      | none =>
        -- a search is found, and the conditions behind know of it
        by_cases hop : c.op = .eq
        · simp [hop, bind_eq_ok_iff, vectorOf_eq_ok_iff, ih]
        · simp [hop]
    · have hnot : rules.searches c = false := by simp [Rules.searches, hsearch]
      rw [if_neg hsearch]
      cases hpush : rules.isPushable c with
      | true =>
        rw [if_pos rfl, divides_cons_pushes hnot hpush]
        simp only [bind_eq_ok_iff, ih]
        constructor
        · rintro ⟨a, ha, rest, hrest, h⟩
          exact ⟨a, rest, ha, hrest, (Except.ok.inj h).symm⟩
        · rintro ⟨a, rest, ha, hrest, rfl⟩
          exact ⟨a, ha, rest, hrest, rfl⟩
      | false =>
        rw [if_neg (by simp), divides_cons_leaves hnot hpush]
        simp only [bind_eq_ok_iff, ih]
        constructor
        · rintro ⟨rest, hrest, h⟩
          exact ⟨rest, hrest, (Except.ok.inj h).symm⟩
        · rintro ⟨rest, hrest, rfl⟩
          exact ⟨rest, hrest, rfl⟩

/-- **Nothing is left over and nothing is searched exactly if every condition is for the remote
side.** All of them are rendered then. -/
theorem divides_pushed_iff {parts : List α} :
    Partition.Divides rules none cs ⟨parts, [], none⟩ ↔ (∀ c ∈ cs, rules.pushes c = true) ∧
      List.Forall₂ (fun c a => rules.render c = .ok a) cs parts := by
  constructor
  · rintro ⟨hparts, hresidual, hsimilarity⟩
    -- one condition on the search column would be a search, and two would be refused
    have hsearches : cs.filter rules.searches = [] := by
      match hfound : cs.filter rules.searches with
      | [] => rfl
      | [c] =>
        rw [hfound] at hsimilarity
        obtain ⟨-, -, vector, -, hsome⟩ := hsimilarity
        exact absurd hsome (by simp)
      | _ :: _ :: _ =>
        rw [hfound] at hsimilarity
        exact hsimilarity.elim
    -- what is in neither of the other two places is for the remote side
    have hpushes : ∀ c ∈ cs, rules.pushes c = true := by
      intro c hc
      have hleaves := List.filter_eq_nil_iff.1 hresidual.symm c hc
      have hsearch := List.filter_eq_nil_iff.1 hsearches c hc
      unfold Rules.leaves at hleaves
      unfold Rules.pushes
      revert hleaves hsearch
      cases rules.searches c <;> cases rules.isPushable c <;> simp
    rw [List.filter_eq_self.2 hpushes] at hparts
    exact ⟨hpushes, hparts⟩
  · rintro ⟨hpushes, hparts⟩
    -- a condition in one place is in no other
    have hplace (c : Condition) (hc : c ∈ cs) :
        rules.searches c = false ∧ rules.isPushable c = true := by
      have hpush := hpushes c hc
      unfold Rules.pushes at hpush
      revert hpush
      cases rules.searches c <;> cases rules.isPushable c <;> simp
    have hleaves : cs.filter rules.leaves = [] := by
      refine List.filter_eq_nil_iff.2 fun c hc => ?_
      simp [Rules.leaves, (hplace c hc).2]
    have hsearches : cs.filter rules.searches = [] := by
      refine List.filter_eq_nil_iff.2 fun c hc => ?_
      simp [(hplace c hc).1]
    refine ⟨?_, hleaves.symm, ?_⟩
    · rwa [List.filter_eq_self.2 hpushes]
    · rw [hsearches]
      exact rfl

/-! ### Parameters together -/

namespace ParameterDialect

variable {d : ParameterDialect}

/-- Parameters are put behind others exactly if no name comes twice. -/
theorem conjoin_eq_ok_iff {taken parts : List (String × String)} {filter : TargetFilter}
    (htaken : (taken.map Prod.fst).Nodup) : d.conjoin taken parts = .ok filter ↔
      ((taken ++ parts).map Prod.fst).Nodup ∧ filter = .parameters (taken ++ parts) := by
  induction parts generalizing taken with
  | nil => simp [conjoin, htaken, eq_comm]
  | cons entry parts ih =>
    obtain ⟨name, value⟩ := entry
    rw [conjoin, List.append_cons taken (name, value) parts]
    by_cases hname : name ∈ taken.map Prod.fst
    · -- the name is refused, and it would come twice
      have hany : taken.any (·.1 == name) = true := by simpa using hname
      have htwice : ¬ ((taken ++ [(name, value)] ++ parts).map Prod.fst).Nodup := by
        rw [List.map_append, List.map_append, List.map_singleton]
        exact fun hnodup => List.disjoint_of_nodup_append hnodup.of_append_left hname
          (List.mem_singleton_self name)
      rw [if_pos hany]
      exact iff_of_false nofun fun h => htwice h.1
    · -- the entry is now one of those taken, and the names are still distinct
      have hany : ¬ taken.any (·.1 == name) = true := by simpa using hname
      have hnodup : ((taken ++ [(name, value)]).map Prod.fst).Nodup := by
        rw [List.map_append, List.map_singleton]
        exact htaken.append (List.nodup_singleton name) (List.disjoint_singleton.2 hname)
      rw [if_neg hany]
      exact ih hnodup

/-- **Parameters are put together exactly if no name comes twice.** -/
theorem conjoin_nil_eq_ok_iff {parts : List (String × String)} {filter : TargetFilter} :
    d.conjoin [] parts = .ok filter ↔
      (parts.map Prod.fst).Nodup ∧ filter = .parameters parts := by
  have hnil : (([] : List (String × String)).map Prod.fst).Nodup := List.nodup_nil
  exact conjoin_eq_ok_iff hnil

end ParameterDialect

/-! ### Translations -/

variable {t : Translation}

/-- **A translation into boolean expressions**: the rendered conditions joined, if there are any. -/
theorem translate_expression_eq_ok_iff {d : ExpressionDialect} :
    translate cs (.expression d) = .ok t ↔ ∃ part, Partition.Divides d.rules none cs part ∧
      t = ⟨if part.parts.isEmpty then none else some (ExpressionDialect.conjoin part.parts),
        part.residual, part.similarity⟩ := by
  -- the only way to fail is the division
  unfold translate
  rw [bind_eq_ok_iff]
  refine exists_congr fun part => ?_
  rw [partitionConditions_eq_ok_iff]
  exact and_congr_right fun _ =>
    ⟨fun h => (Except.ok.inj h).symm, fun h => congrArg Except.ok h.symm⟩

/-- **A translation into request parameters**: the parameters put together, if there are any. No
name may come twice. -/
theorem translate_parameters_eq_ok_iff {d : ParameterDialect} :
    translate cs (.parameters d) = .ok t ↔ ∃ part, Partition.Divides d.rules none cs part ∧
      (part.parts.map Prod.fst).Nodup ∧
      t = ⟨if part.parts.isEmpty then none else some (.parameters part.parts), part.residual,
        part.similarity⟩ := by
  unfold translate
  rw [bind_eq_ok_iff]
  refine exists_congr fun part => ?_
  rw [partitionConditions_eq_ok_iff]
  refine and_congr_right fun _ => ?_
  -- no parts make no filter, and some make one if they can be put together
  cases part.parts with
  | nil =>
    constructor
    · exact fun h => ⟨List.nodup_nil, (Except.ok.inj h).symm⟩
    · rintro ⟨-, rfl⟩
      rfl
  | cons a parts =>
    dsimp only
    rw [if_neg (by simp), bind_eq_ok_iff]
    constructor
    · rintro ⟨pushed, hpushed, h⟩
      obtain ⟨filter, hfilter, rfl⟩ := map_eq_ok_iff.1 hpushed
      obtain ⟨hnodup, rfl⟩ := ParameterDialect.conjoin_nil_eq_ok_iff.1 hfilter
      exact ⟨hnodup, (Except.ok.inj h).symm⟩
    · rintro ⟨hnodup, rfl⟩
      have hfilter : d.conjoin [] (a :: parts) = .ok (.parameters (a :: parts)) :=
        ParameterDialect.conjoin_nil_eq_ok_iff.2 ⟨hnodup, rfl⟩
      exact ⟨_, map_eq_ok_iff.2 ⟨_, hfilter, rfl⟩, rfl⟩

/-- What a translation leaves over is among the conditions. -/
theorem translate_residual_subset {d : Dialect} (h : translate cs d = .ok t) :
    t.residual ⊆ cs := by
  -- for either dialect, what is left over comes from the division
  have hdivides {α : Type} {rules : Rules α} {part : Partition α}
      (hpart : Partition.Divides rules none cs part) : part.residual ⊆ cs := by
    rw [hpart.residual]
    exact List.filter_sublist.subset
  cases d with
  | expression d =>
    obtain ⟨part, hpart, rfl⟩ := translate_expression_eq_ok_iff.1 h
    exact hdivides hpart
  | parameters d =>
    obtain ⟨part, hpart, -, rfl⟩ := translate_parameters_eq_ok_iff.1 h
    exact hdivides hpart

end Pushdown
