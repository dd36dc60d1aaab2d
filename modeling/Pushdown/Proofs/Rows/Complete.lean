import Pushdown.Proofs.Rows.Unification

/-!
# Rows that are in shape

A row that has the declared columns, with cells that none of their types refuses, is `Complete`.
Payloads become complete rows (`complete_of_mem_unify`), and complete rows are what shaping leaves
as they are (`unify_eq_self_iff`). So shaping twice is shaping once, `unify_unify`.

Three things could go wrong the second time, and each is a matter of keys. An object could be
flattened; but the keys of a row are declared, and objects under declared keys stay whole. A field
could be exploded; but it is no column of the rows. And a cell could be refused; but a row that is
looked at as a flat record has the cells that it has (`rowOf_eq_self`).
-/

namespace Pushdown

namespace Shape

variable {s : Shape} {row : Record} {payloads : List Json} {rows : List Record}

/-! ### Fixed points -/

section

variable (hdistinct : (s.schema.columns.map (·.name)).Nodup)
  (hexplode : ∀ field ∈ s.explode, field ∉ s.schema.outputColumns)
include hdistinct

theorem rowOf_eq_self (h : Record.keys row = s.schema.outputColumns) : s.rowOf row = row := by
  have hnodup : (Record.keys row).Nodup := h ▸ Schema.nodup_outputColumns hdistinct
  -- each cell is the one that the row has under the column
  refine (Record.eq_map_mk_iff.2 ⟨h, ?_⟩).symm
  intro e he
  unfold flatCell
  rw [Record.get?_of_mem hnodup he]
  rfl

include hexplode

/-- A complete row is its own flat record. -/
theorem flats_eq_self (h : Record.keys row = s.schema.outputColumns) : s.flats row = .ok [row] := by
  -- declared keys are not flattened
  have hflatten : flatten s.schema row = row := by
    refine flatten_of_declared (h ▸ Schema.nodup_outputColumns hdistinct) fun key hkey => ?_
    exact Option.isSome_iff_ne_none.2 (Schema.column?_ne_none (h ▸ hkey))
  unfold flats
  cases hfield : s.explode with
  | none =>
    dsimp only
    rw [hflatten]
  | some field =>
    -- the field that would be exploded is no key of the row
    have hnotMem : field ∉ Record.keys row := h ▸ hexplode field hfield
    have hnone : Record.get? row field = none := by
      rwa [← Option.not_isSome_iff_eq_none, Record.get?_isSome_iff]
    dsimp only
    rw [hnone, Record.swapRemove_of_notMem hnotMem, hflatten]
    rfl

/-- **A row is left as it is exactly if it is complete.** -/
theorem rowsOf_eq_self_iff : s.rowsOf row = .ok [row] ↔ s.Complete row := by
  constructor
  · intro h
    have hunify : s.unify [.object row] = .ok [row] :=
      unifyFrom_eq_ok_iff.2 ⟨[[row]], .cons ⟨row, rfl, h⟩ .nil, rfl⟩
    exact complete_of_mem_unify (Schema.nodup_outputColumns hdistinct) hunify List.mem_cons_self
  · intro h
    -- it is its own flat record, of which no cell is refused, and its row is itself
    refine (rowsOf_eq_ok_iff (Schema.nodup_outputColumns hdistinct)).2
      ⟨[row], flats_eq_self hdistinct hexplode h.keys, ?_, ?_⟩
    · exact List.forall_mem_singleton.2 h.accepted
    · exact congrArg (fun row => [row]) (rowOf_eq_self hdistinct h.keys).symm

/-- **Complete rows are the fixed points of shaping.** -/
theorem unify_eq_self_iff :
    s.unify (rows.map .object) = .ok rows ↔ ∀ row ∈ rows, s.Complete row := by
  constructor
  · intro h row hrow
    exact complete_of_mem_unify (Schema.nodup_outputColumns hdistinct) h hrow
  · -- row by row, as each becomes itself and nothing else
    intro h
    refine unifyFrom_eq_ok_iff.2 ⟨rows.map fun row => [row], ?_, ?_⟩
    · rw [List.forall₂_map_left_iff, List.forall₂_map_right_iff, List.forall₂_same]
      intro row hrow
      exact ⟨row, rfl, (rowsOf_eq_self_iff hdistinct hexplode).2 (h row hrow)⟩
    · exact (List.flatMap_singleton' rows).symm

/-- **Shaping is idempotent.** The rows that payloads become are left as they are by the same
shaping, with their keys, their values and the order of both, if the field that it explodes is no
column of the rows. -/
theorem unify_unify (h : s.unify payloads = .ok rows) :
    s.unify (rows.map .object) = .ok rows :=
  (unify_eq_self_iff hdistinct hexplode).2 fun _ hrow =>
    complete_of_mem_unify (Schema.nodup_outputColumns hdistinct) h hrow

end

/-! ### An instance -/

/-- Items of orders, in a table whose rows do not carry the list of them. -/
def orderItems : Shape :=
  ⟨⟨"orders", [.output "id" .integer, .output "notes" .json, .condition "items" .json,
    .output "items.name" .text]⟩, some "items"⟩

/-- The rows of an order with two items. The notes are an object, and they stay one. -/
def twoItems : List Record :=
  [[("id", .ofInt 7), ("notes", .object [("by", .object [("hand", .bool true)])]),
      ("items.name", "ink")],
    [("id", .ofInt 7), ("notes", .object [("by", .object [("hand", .bool true)])]),
      ("items.name", .null)]]

/-- An order becomes two rows, and the rows are not exploded again. -/
theorem unify_unify_twoItems :
    (orderItems.schema.columns.map (·.name)).Nodup ∧
      (∀ field ∈ orderItems.explode, field ∉ orderItems.schema.outputColumns) ∧
      orderItems.unify [.object [("items", .array [.object [("name", "ink")], .object []]),
        ("id", .ofInt 7), ("notes", .object [("by", .object [("hand", .bool true)])])]] =
          .ok twoItems ∧
      orderItems.unify (twoItems.map .object) = .ok twoItems := by
  have hdistinct : (orderItems.schema.columns.map (·.name)).Nodup := by decide
  have hexplode : ∀ field ∈ orderItems.explode, field ∉ orderItems.schema.outputColumns := by decide
  have hunify : orderItems.unify [.object [
      ("items", .array [.object [("name", "ink")], .object []]), ("id", .ofInt 7),
      ("notes", .object [("by", .object [("hand", .bool true)])])]] = .ok twoItems := rfl
  exact ⟨hdistinct, hexplode, hunify, unify_unify hdistinct hexplode hunify⟩

end Shape

end Pushdown
