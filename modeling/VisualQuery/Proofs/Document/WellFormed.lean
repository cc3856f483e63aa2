import VisualQuery.Proofs.Document.Checks

/-!
# Which documents are accepted

The checks of loading look containers and items up in the query that is being built. A reader of
documents wants to know what they say of the document itself, without the index: which identities
have to be distinct, and what has to be where. `Document.WellFormed` says that, and can be computed.

The two agree as long as no table has the identity of the constants container
(`Document.passes_iff`). A table that has it is found by no look-up of its items, so the checks then
say something else.

The mode does not matter: under fresh identities the accepted query is copied, and copying always
succeeds (`Document.load_ok_iff`).
-/

namespace VisualQuery

namespace Document

variable {d : Document}

/-- Some table has the container of the end of a join, and holds its item. -/
def Owns (d : Document) (e : JoinEnd) : Prop :=
  ∃ k ∈ d.tables, k.id = e.container ∧ e.item ∈ k.items.map (·.id)

instance (d : Document) (e : JoinEnd) : Decidable (d.Owns e) :=
  inferInstanceAs (Decidable (∃ k ∈ d.tables, k.id = e.container ∧ e.item ∈ k.items.map (·.id)))

/-- **The parts of a document fit together.** -/
@[mk_iff]
structure WellFormed (d : Document) : Prop where
  /-- The constants container is of kind constants. -/
  constants_kind : d.constants.isConstants = true
  /-- No table is. -/
  tables_kind : ∀ k ∈ d.tables, k.isConstants = false
  /-- The tables have distinct identities. -/
  tables_nodup : (d.tables.map (·.id)).Nodup
  /-- The items have distinct identities, wherever they are. -/
  items_nodup : (d.items.map (·.id)).Nodup
  /-- The joins have distinct identities. -/
  joins_nodup : (d.joins.map (·.id)).Nodup
  /-- The two ends of a join are at different containers. -/
  apart : ∀ j ∈ d.joins, j.left.container ≠ j.right.container
  /-- They are at tables that own the items. -/
  owned : ∀ j ∈ d.joins, d.Owns j.left ∧ d.Owns j.right
  /-- The selected items exist. -/
  selected_known : ∀ x ∈ d.selectedItems, x ∈ d.items.map (·.id)
  /-- None is selected twice. -/
  selected_nodup : d.selectedItems.Nodup
  /-- The items of the sort list are selected. -/
  sorted_selected : ∀ x ∈ d.orderByItems, x ∈ d.selectedItems
  /-- They exist and have a sort order. -/
  sorted_ordered : ∀ x ∈ d.orderByItems, ∃ i ∈ d.items, i.id = x ∧ i.sortOrder.isOrdered = true
  /-- None is listed twice. -/
  sorted_nodup : d.orderByItems.Nodup

instance (d : Document) : Decidable d.WellFormed := decidable_of_iff _ d.wellFormed_iff.symm

/-! ### Looking things up in the containers -/

section Housed

variable (h : Housed d.bare.containers d.bare.itemIndex)
include h

theorem holdsEnd_bare_iff {e : JoinEnd} : d.bare.holdsEnd e = true ↔ d.Owns e := by
  rw [Query.Coherent.holdsEnd_iff h, Owns]
  constructor
  · rintro ⟨k', hk', hid, hx⟩
    obtain ⟨k, hk, rfl⟩ := List.mem_map.mp hk'
    exact ⟨k, hk, hid, k.adopt_ids ▸ hx⟩
  · rintro ⟨k, hk, hid, hx⟩
    exact ⟨k.adopt, List.mem_map_of_mem hk, hid, k.adopt_ids.symm ▸ hx⟩

theorem exists_item?_bare_iff {x : ItemId} :
    (∃ item, d.bare.item? x = some item) ↔ x ∈ d.items.map (·.id) := by
  rw [← itemIds_bare, ← not_iff_not, ← h.item?_eq_none_iff, ← Option.isSome_iff_exists,
    Option.not_isSome_iff_eq_none]

/-- Looking an item up finds it as the document has it, but for its parent. -/
theorem exists_ordered_bare_iff {x : ItemId} :
    (∃ item, d.bare.item? x = some item ∧ item.sortOrder.isOrdered = true) ↔
      ∃ i ∈ d.items, i.id = x ∧ i.sortOrder.isOrdered = true := by
  simp only [h.item?_iff, mem_items_bare, items, List.mem_flatMap]
  constructor
  · rintro ⟨-, ⟨⟨k, hk, i, hi, rfl⟩, rfl⟩, hordered⟩
    exact ⟨i, ⟨k, hk, hi⟩, rfl, hordered⟩
  · rintro ⟨i, ⟨k, hk, hi⟩, rfl, hordered⟩
    exact ⟨_, ⟨⟨k, hk, i, hi, rfl⟩, rfl⟩, hordered⟩

end Housed

/-- Then no two containers have the same identity. -/
theorem containers_nodup_of_apart (hapart : ∀ k ∈ d.tables, k.id ≠ d.constants.id)
    (htables : (d.tables.map (·.id)).Nodup) : (d.containers.map (·.id)).Nodup := by
  refine List.nodup_cons.mpr ⟨fun hmem => ?_, htables⟩
  obtain ⟨k, hk, hid⟩ := List.mem_map.mp hmem
  exact hapart k hk hid

/-- **The checks say that the document is well-formed**, if no table has the identity of the
constants container. -/
theorem passes_iff (hapart : ∀ k ∈ d.tables, k.id ≠ d.constants.id) : d.Passes ↔ d.WellFormed := by
  constructor
  · -- the checks go through the item index, well-formedness through the listed containers: with
    -- every identifier in one place, the two find the same
    intro h
    have hhoused := housed_bare (containers_nodup_of_apart hapart h.tables_nodup) h.items_nodup
    exact {
      constants_kind := h.constants_kind
      tables_kind := h.tables_kind
      tables_nodup := h.tables_nodup
      items_nodup := h.items_nodup
      joins_nodup := h.joins_nodup
      apart := h.apart
      owned := fun j hj => ⟨(holdsEnd_bare_iff hhoused).mp (h.ends j hj .left),
        (holdsEnd_bare_iff hhoused).mp (h.ends j hj .right)⟩
      selected_known := fun x hx => (exists_item?_bare_iff hhoused).mp (h.selected x hx)
      selected_nodup := h.selected_nodup
      sorted_selected := fun x hx => by
        obtain ⟨-, -, hselected, -⟩ := h.sorted x hx
        exact hselected
      sorted_ordered := fun x hx => by
        obtain ⟨item, hitem, -, hordered⟩ := h.sorted x hx
        exact (exists_ordered_bare_iff hhoused).mp ⟨item, hitem, hordered⟩
      sorted_nodup := h.sorted_nodup }
  · intro h
    have hhoused := housed_bare (containers_nodup_of_apart hapart h.tables_nodup) h.items_nodup
    exact {
      constants_kind := h.constants_kind
      tables_kind := h.tables_kind
      tables_nodup := h.tables_nodup
      items_nodup := h.items_nodup
      ends := fun j hj side => (holdsEnd_bare_iff hhoused).mpr <| by
        cases side with
        | left => exact (h.owned j hj).1
        | right => exact (h.owned j hj).2
      apart := h.apart
      joins_nodup := h.joins_nodup
      selected := fun x hx => (exists_item?_bare_iff hhoused).mpr (h.selected_known x hx)
      selected_nodup := h.selected_nodup
      sorted := fun x hx => by
        obtain ⟨item, hitem, hordered⟩ := (exists_ordered_bare_iff hhoused).mpr
          (h.sorted_ordered x hx)
        exact ⟨item, hitem, h.sorted_selected x hx, hordered⟩
      sorted_nodup := h.sorted_nodup }

/-! ### Loading -/

/-- Loading succeeds in both modes if the document is accepted. -/
theorem exists_load_iff (mode : IdentityMode) (supply : IdSupply) :
    (∃ q, ((d.load mode).run supply).1 = .ok q) ↔ ∃ q, d.toQuery = .ok q := by
  cases hquery : d.toQuery with
  | error e =>
    have hload : ((d.load mode).run supply).1 = .error e := by
      unfold load
      rw [hquery]
      rfl
    simp [hload]
  | ok q =>
    -- new identifiers are drawn from what was loaded, and drawing never fails
    refine iff_of_true ?_ ⟨q, rfl⟩
    unfold load
    rw [hquery]
    cases mode with
    | preserve => exact ⟨q, rfl⟩
    | regenerate => exact ⟨_, rfl⟩

/-- **The loader accepts exactly the well-formed documents.** For every document none of whose
tables has the identity of the constants container, in both identity modes and with every supply of
fresh identities. -/
theorem load_ok_iff (d : Document) (hapart : ∀ k ∈ d.tables, k.id ≠ d.constants.id)
    (mode : IdentityMode) (supply : IdSupply) :
    (∃ q, ((d.load mode).run supply).1 = .ok q) ↔ d.WellFormed := by
  simp only [exists_load_iff, toQuery_eq_ok_iff, exists_and_left, exists_eq', and_true,
    passes_iff hapart]

/-- A document for samples, with one table that is given by number. Its item has a sort order. -/
def sample (table : Nat) (selected sorted : List ItemId) : Document :=
  { id := ⟨.ofNat 1⟩, name := "sample"
    constants := { Container.table ⟨.ofNat 5⟩ "Constants" with kind := .constants }
    tables := [{ Container.table ⟨.ofNat table⟩ "orders" with
      items := [{ Item.column ⟨.ofNat 7⟩ "number" with sortOrder := .ascending }] }]
    joins := [], selectedItems := selected, orderByItems := sorted
    globalWhere := none, grouping := false, rowLimit := 1000, streamingRowLimit := 1000
    streaming := false, zoom := 0, userOverride := none }

/-- The sample can be loaded under fresh identities. -/
theorem load_ok_sample :
    (∀ k ∈ (sample 6 [⟨.ofNat 7⟩] [⟨.ofNat 7⟩]).tables,
        k.id ≠ (sample 6 [⟨.ofNat 7⟩] [⟨.ofNat 7⟩]).constants.id) ∧
      ∃ q, (((sample 6 [⟨.ofNat 7⟩] [⟨.ofNat 7⟩]).load .regenerate).run (.after 0)).1 = .ok q := by
  have hapart : ∀ k ∈ (sample 6 [⟨.ofNat 7⟩] [⟨.ofNat 7⟩]).tables,
      k.id ≠ (sample 6 [⟨.ofNat 7⟩] [⟨.ofNat 7⟩]).constants.id := by decide
  exact ⟨hapart, (load_ok_iff _ hapart .regenerate (.after 0)).mpr (by decide)⟩

/-- A sort key has to be selected. -/
example : ¬ (sample 6 [] [⟨.ofNat 7⟩]).WellFormed := by decide

end Document

end VisualQuery
