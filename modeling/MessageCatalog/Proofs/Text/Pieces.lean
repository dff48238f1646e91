import Mathlib.Data.List.Basic

/-! What is read piece by piece is read when each of its pieces is; what is put together from pieces has one
item for each of them only when each piece has one. -/

namespace MessageCatalog

section

variable {α β : Type} {read? : α → Option β} {items : List α}

/-- A list cannot be read when one of its items cannot. -/
theorem mapM_eq_none_iff : items.mapM read? = none ↔ ∃ item ∈ items, read? item = none := by
  -- By induction on the items; the first one that cannot be read decides.
  induction items with
  | nil => simp
  | cons item items ih =>
    rw [List.mapM_cons]
    cases first : read? item with
    | none => simp [first]
    | some value =>
      cases others : items.mapM read? with
      | none => simpa [first, others] using ih
      | some values => simpa [first, others] using ih

/-- What is read from a list is read from its items. -/
theorem exists_of_mem_mapM {values : List β} (read : items.mapM read? = some values) :
    ∀ value ∈ values, ∃ item ∈ items, read? item = some value := by
  -- By induction on the items, each of which has been read.
  induction items generalizing values with
  | nil =>
    cases read
    exact nofun
  | cons item items ih =>
    rw [List.mapM_cons] at read
    obtain ⟨first, found, read⟩ := Option.bind_eq_some_iff.1 read
    obtain ⟨others, foundOthers, same⟩ := Option.bind_eq_some_iff.1 read
    cases same
    refine List.forall_mem_cons.2 ⟨⟨item, .head _, found⟩, fun value member => ?_⟩
    obtain ⟨other, inside, same⟩ := ih foundOthers value member
    exact ⟨other, .tail _ inside, same⟩

/-- Items that can all be read are read one by one. -/
theorem exists_mapM_eq_some (each : ∀ item ∈ items, (read? item).isSome = true) :
    ∃ values, items.mapM read? = some values ∧ values.length = items.length := by
  -- By induction on the items, each of which gives one value.
  induction items with
  | nil => exact ⟨[], rfl, rfl⟩
  | cons item items ih =>
    obtain ⟨value, found⟩ := Option.isSome_iff_exists.1 (each item (.head _))
    obtain ⟨values, others, length⟩ := ih fun other member => each other (.tail _ member)
    refine ⟨value :: values, ?_, by rw [List.length_cons, length, List.length_cons]⟩
    rw [List.mapM_cons, found, others]
    rfl

end

section

variable {α β : Type} {pieces : List α} {text : α → List β}

/-- Pieces that are not empty have an item each at least. -/
theorem length_le_flatMap (nonempty : ∀ piece ∈ pieces, text piece ≠ []) :
    pieces.length ≤ (pieces.flatMap text).length := by
  -- By induction on the pieces, each of which has at least one character.
  induction pieces with
  | nil => exact Nat.zero_le _
  | cons piece pieces ih =>
    obtain ⟨first, others⟩ := List.forall_mem_cons.1 nonempty
    have rest := ih others
    have some_item := List.length_pos_of_ne_nil first
    rw [List.flatMap_cons, List.length_append, List.length_cons]
    omega

/-- Pieces that are not empty make up one item for each of them just when each is that item. -/
theorem flatMap_eq_map_iff {item : α → β} (nonempty : ∀ piece ∈ pieces, text piece ≠ []) :
    pieces.flatMap text = pieces.map item ↔ ∀ piece ∈ pieces, text piece = [item piece] := by
  constructor
  · -- By induction on the pieces: a second item of one of them would make the whole too long.
    intro same
    induction pieces with
    | nil => exact nofun
    | cons piece pieces ih =>
      obtain ⟨first, others⟩ := List.forall_mem_cons.1 nonempty
      obtain ⟨head, tail, spelled⟩ := List.exists_cons_of_ne_nil first
      have enough := length_le_flatMap others
      rw [List.flatMap_cons, spelled, List.map_cons, List.cons_append, List.cons.injEq] at same
      obtain ⟨rfl, rest⟩ := same
      have length := congrArg List.length rest
      rw [List.length_append, List.length_map] at length
      have none : tail = [] := List.eq_nil_of_length_eq_zero (by omega)
      rw [none, List.nil_append] at rest
      exact List.forall_mem_cons.2 ⟨by rw [spelled, none], ih others rest⟩
  · -- Item by item, both sides are the same list.
    intro each
    rw [List.flatMap_congr each, ← List.map_eq_flatMap]

end

end MessageCatalog
