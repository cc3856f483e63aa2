import VisualQuery.Proofs.Document.WellFormed

/-!
# What a loaded query fulfils

A query that edits lead to has the invariant, and everything else is proved from that. For a query
that is loaded the checks have to bring the invariant about. They nearly do. What they leave out are
two things that every edit takes care of:

* a table may have the identity of the constants container. Containers are looked up among the
  constants first, so such a table is not found by its identity, and its items are not found at all
  (`Document.item?_loaded_of_clash`);
* a selected item with a sort order need not be on the sort list (`Document.ListsSorted`).

Everything else follows from the checks, so a loaded query has the invariant if and only if the
document does neither of the two (`Document.load_coherent_iff`). The check of the library asks for
less: it accepts every loaded query (`Document.Passes.isConsistent_loaded`).

A query is loaded in two steps, of which the first one makes the containers and their index, and the
second one sets the flags of the items. The checks look things up behind the first step. Setting
flags changes no identity, so the look-ups behind the second step find the same things with their
flags set (`Document.item?_loaded`).
-/

namespace VisualQuery

namespace Document

variable {d : Document} {r : JoinRegistry} {q : Query}

/-! ### Setting the flags -/

/-- The item with its flag set by the selection of the document. -/
def flagged (d : Document) (x : Item) : Item :=
  { x with selected := decide (x.id ∈ d.selectedItems) }

theorem flagSelected_ids (selection : List ItemId) (k : Container) :
    (flagSelected selection k).items.map (·.id) = k.items.map (·.id) := by
  rw [flagSelected, List.map_map]
  rfl

theorem containers_loaded :
    (d.loaded r).containers = d.bare.containers.map (flagSelected d.selectedItems) := rfl

theorem items_loaded : (d.loaded r).items = d.bare.items.map d.flagged :=
  d.bare.items_mapItems d.flagged

theorem itemIds_loaded : (d.loaded r).items.map (·.id) = d.items.map (·.id) := by
  rw [items_loaded, List.map_map, ← itemIds_bare]
  rfl

theorem tableIds_loaded : (d.loaded r).tableIds = d.tables.map (·.id) := rfl

theorem mapped_loaded : (d.loaded r).tables.map (·.id) = (d.loaded r).tableIds :=
  (Container.map_ids (f := flagSelected d.selectedItems) (fun _ => rfl) _).trans d.mapped_bare

theorem constants_notMem_loaded (d : Document) (r : JoinRegistry) :
    (d.loaded r).constants.id ∉ (d.loaded r).tableIds ↔
      ∀ k ∈ d.tables, k.id ≠ d.constants.id := by
  rw [tableIds_loaded, List.mem_map, not_exists]
  exact forall_congr' fun _ => not_and

theorem container?_loaded (c : ContainerId) :
    (d.loaded r).container? c = (d.bare.container? c).map (flagSelected d.selectedItems) := by
  rw [Query.container?_eq_find?, Query.container?_eq_find?, containers_loaded, List.find?_map]
  rfl

theorem item?_loaded (x : ItemId) :
    (d.loaded r).item? x = (d.bare.item? x).map d.flagged := by
  -- setting the flags touches no identifier, so the look-up meets the same item
  have hitem : ∀ k : Container, (flagSelected d.selectedItems k).item? x =
      (k.item? x).map d.flagged := by
    intro k
    rw [Container.item?, Container.item?, flagSelected, List.find?_map]
    rfl
  unfold Query.item? Query.containerOf?
  show ((d.bare.itemIndex.get? x).bind (d.loaded r).container?).bind _ = _
  cases d.bare.itemIndex.get? x with
  | none => rfl
  | some c =>
    rw [Option.bind_some, Option.bind_some, container?_loaded]
    cases d.bare.container? c with
    | none => rfl
    | some k => exact hitem k

theorem holdsEnd_loaded (e : JoinEnd) : (d.loaded r).holdsEnd e = d.bare.holdsEnd e := by
  have hcontains : ∀ k : Container, (flagSelected d.selectedItems k).contains e.item =
      k.contains e.item := by
    intro k
    rw [Bool.eq_iff_iff, Container.contains_iff, Container.contains_iff, flagSelected_ids]
  show (((d.bare.tables.map (flagSelected d.selectedItems)).find? (·.id = e.container)).map
    (·.contains e.item)).getD false = _
  rw [List.find?_map, Option.map_map, show (·.contains e.item) ∘ flagSelected d.selectedItems =
    (·.contains e.item) from funext hcontains]
  rfl

/-- Items are distinct, so the index lists each with the container that holds it. -/
theorem get?_loaded (hitems : (d.items.map (·.id)).Nodup) {x : ItemId} {c : ContainerId} :
    (d.loaded r).itemIndex.get? x = some c ↔
      ∃ k ∈ (d.loaded r).containers, k.id = c ∧ x ∈ k.items.map (·.id) := by
  rw [← itemIds_bare] at hitems
  show d.bare.itemIndex.get? x = some c ↔ _
  -- the flags are set afterwards, and the index does not know of them
  rw [itemIndex_bare, ItemIndex.get?_foldl_enter hitems, containers_loaded]
  constructor
  · rintro ⟨k, hk, hid, hx⟩
    exact ⟨_, List.mem_map_of_mem hk, hid, flagSelected_ids d.selectedItems k ▸ hx⟩
  · rintro ⟨k', hk', hid, hx⟩
    obtain ⟨k, hk, rfl⟩ := List.mem_map.mp hk'
    exact ⟨k, hk, hid, flagSelected_ids d.selectedItems k ▸ hx⟩

/-! ### What is found -/

/-- The items of a container that is found by its identity are found in it. -/
theorem item?_loaded_of_found (hitems : (d.items.map (·.id)).Nodup) {k : Container}
    (hk : k ∈ (d.loaded r).containers) (hfound : (d.loaded r).container? k.id = some k) {x : Item}
    (hx : x ∈ k.items) :
    (d.loaded r).item? x.id = some x ∧ (d.loaded r).containerOf? x.id = some k := by
  have hget : (d.loaded r).itemIndex.get? x.id = some k.id :=
    (get?_loaded hitems).mpr ⟨k, hk, rfl, List.mem_map_of_mem hx⟩
  have hcontainer : (d.loaded r).containerOf? x.id = some k :=
    Option.bind_eq_some_iff.mpr ⟨k.id, hget, hfound⟩
  -- items of one container have different identifiers, so the first one found is this one
  have hnd : (k.items.map (·.id)).Nodup := by
    rw [← itemIds_loaded (r := r), Query.items, List.map_flatMap] at hitems
    exact (List.nodup_flatMap.mp hitems).1 k hk
  refine ⟨?_, hcontainer⟩
  rw [Query.item?, hcontainer]
  exact (Keyed.find?_eq_some_iff hnd).mpr ⟨hx, rfl⟩

/-- **A table with the identity of the constants container is not found**, and neither are its
items. -/
theorem item?_loaded_of_clash (hitems : (d.items.map (·.id)).Nodup) {k : Container}
    (hk : k ∈ (d.loaded r).tables) (hid : k.id = (d.loaded r).constants.id) :
    (d.loaded r).container? k.id = some (d.loaded r).constants ∧
      ∀ x ∈ k.items, (d.loaded r).item? x.id = none := by
  have hcontainer : (d.loaded r).container? k.id = some (d.loaded r).constants := if_pos hid
  refine ⟨hcontainer, fun x hx => ?_⟩
  have hget : (d.loaded r).itemIndex.get? x.id = some k.id :=
    (get?_loaded hitems).mpr ⟨k, List.mem_cons_of_mem _ hk, rfl, List.mem_map_of_mem hx⟩
  rw [Query.item?, Query.containerOf?, hget, Option.bind_some, hcontainer, Option.bind_some,
    Container.item?, Keyed.find?_eq_none_iff]
  -- the item is looked for among the constants, and these have other identities
  rw [← itemIds_loaded (r := r), Query.items, Query.containers, List.flatMap_cons, List.map_append,
    List.nodup_append] at hitems
  intro hmem
  refine hitems.2.2 x.id hmem x.id (List.mem_map_of_mem ?_) rfl
  exact List.mem_flatMap.mpr ⟨k, hk, hx⟩

/-- Any other table is found, since tables have distinct identities. -/
theorem container?_loaded_of_table (htables : (d.tables.map (·.id)).Nodup) {k : Container}
    (hk : k ∈ (d.loaded r).tables) (hid : k.id ≠ (d.loaded r).constants.id) :
    (d.loaded r).container? k.id = some k := by
  rw [← tableIds_loaded (r := r), ← mapped_loaded] at htables
  rw [Query.container?, if_neg hid]
  exact (Keyed.find?_eq_some_iff htables).mpr ⟨hk, rfl⟩

/-! ### The lists -/

/-- The selected items with a sort order are on the sort list of the document. -/
def ListsSorted (d : Document) : Prop :=
  ∀ x ∈ d.items, x.id ∈ d.selectedItems → x.sortOrder.isOrdered = true → x.id ∈ d.orderByItems

instance (d : Document) : Decidable d.ListsSorted :=
  inferInstanceAs (Decidable (∀ x ∈ d.items, x.id ∈ d.selectedItems →
    x.sortOrder.isOrdered = true → x.id ∈ d.orderByItems))

theorem listsSorted_iff (d : Document) (r : JoinRegistry) :
    d.ListsSorted ↔ ∀ x ∈ (d.loaded r).items, x.selected = true → x.sortOrder.isOrdered = true →
      x.id ∈ (d.loaded r).sortList := by
  constructor
  · -- an item of the loaded query is selected exactly when the document lists it
    intro h y hy hselected hordered
    rw [items_loaded] at hy
    obtain ⟨z, hz, rfl⟩ := List.mem_map.mp hy
    obtain ⟨k, hk, x, hx, rfl⟩ := mem_items_bare.mp hz
    exact h x (List.mem_flatMap.mpr ⟨k, hk, hx⟩) (of_decide_eq_true hselected) hordered
  · intro h x hx hselected hordered
    obtain ⟨k, hk, hxk⟩ := List.mem_flatMap.mp hx
    have hmem : d.flagged { x with parent := some k.id } ∈ (d.loaded r).items := by
      rw [items_loaded]
      exact List.mem_map_of_mem (mem_items_bare.mpr ⟨k, hk, x, hxk, rfl⟩)
    exact h (d.flagged { x with parent := some k.id }) hmem (decide_eq_true hselected) hordered

namespace Passes

variable (h : d.Passes)
include h

/-- The flags follow the selection, and all of it is there. -/
theorem selection_loaded : Listing (d.loaded r).items (·.selected) d.selectedItems := by
  refine ⟨h.selected_nodup, fun id => ⟨fun hid => ?_, ?_⟩⟩
  · obtain ⟨item, hitem⟩ := h.selected id hid
    obtain ⟨hmem, rfl⟩ := Query.item?_eq_some hitem
    rw [items_loaded]
    exact ⟨d.flagged item, List.mem_map_of_mem hmem, rfl, decide_eq_true hid⟩
  · rintro ⟨x, hx, rfl, hselected⟩
    rw [items_loaded] at hx
    obtain ⟨y, -, rfl⟩ := List.mem_map.mp hx
    exact of_decide_eq_true hselected

/-- What is on the sort list is found, and it is a sort key. -/
theorem sorted_loaded {id : ItemId} (hid : id ∈ d.orderByItems) :
    ∃ x, (d.loaded r).item? id = some x ∧ x.isSorted = true := by
  obtain ⟨item, hitem, hselected, hordered⟩ := h.sorted id hid
  obtain ⟨-, rfl⟩ := Query.item?_eq_some hitem
  refine ⟨d.flagged item, ?_, Bool.and_eq_true_iff.mpr ⟨decide_eq_true hselected, hordered⟩⟩
  rw [item?_loaded, hitem, Option.map_some]

theorem joins_loaded : (d.joins.foldl .extend JoinRegistry.empty).Coherent :=
  JoinRegistry.Coherent.empty.foldl_extend (fresh_nil_left.mpr h.joins_nodup) h.apart

theorem ends_loaded {j : Join} (hj : j ∈ (d.joins.foldl .extend JoinRegistry.empty).joins)
    (side : Side) : (d.loaded r).holdsEnd (j.atSide side) = true := by
  rcases JoinRegistry.exists_of_mem_foldl_extend hj with hj | ⟨j', hj', hends⟩
  · exact absurd hj List.not_mem_nil
  · -- the end is at the same item as in the document
    rw [holdsEnd_loaded, Query.holdsEnd, (hends side).1, (hends side).2]
    exact h.ends j' hj' side

theorem listed_loaded : (d.loaded (d.joins.foldl .extend .empty)).Listed :=
  ⟨mapped_loaded, h.tables_nodup, h.joins_loaded⟩

/-- **The check of the library accepts every loaded query.** -/
theorem isConsistent_loaded :
    (d.loaded (d.joins.foldl .extend .empty)).isConsistent = true := by
  refine Query.isConsistent_of_listing h.listed_loaded.fromTables_eq ?_
    h.selection_loaded (fun id hid => h.sorted_loaded hid) h.sorted_nodup h.joins_loaded
    (fun j hj side => h.ends_loaded hj side)
  rw [itemIds_loaded]
  exact h.items_nodup

/-- **If the document does neither of the two, the loaded query has the invariant.** -/
theorem coherent_loaded (hapart : ∀ k ∈ d.tables, k.id ≠ d.constants.id)
    (hsorted : d.ListsSorted) : (d.loaded (d.joins.foldl .extend .empty)).Coherent where
  mapped := mapped_loaded
  housed := (housed_bare (containers_nodup_of_apart hapart h.tables_nodup) h.items_nodup).mapItems
    (fun _ => rfl) (fun _ => rfl)
  constants_kind := h.constants_kind
  tables_kind := by
    intro k' hk'
    obtain ⟨k₁, hk₁, rfl⟩ := List.mem_map.mp hk'
    obtain ⟨k, hk, rfl⟩ := List.mem_map.mp hk₁
    exact h.tables_kind k hk
  selection := h.selection_loaded
  -- one direction is what the checks establish, the other is the document's own condition
  sortList := by
    refine ⟨h.sorted_nodup, fun id => ⟨fun hid => ?_, ?_⟩⟩
    · obtain ⟨x, hx, hkey⟩ := h.sorted_loaded hid
      obtain ⟨hmem, hxid⟩ := Query.item?_eq_some hx
      exact ⟨x, hmem, hxid, hkey⟩
    · rintro ⟨x, hx, rfl, hkey⟩
      obtain ⟨hselected, hordered⟩ := Bool.and_eq_true_iff.mp hkey
      exact (listsSorted_iff d _).mp hsorted x hx hselected hordered
  joins := h.joins_loaded
  ends := fun j hj side => h.ends_loaded hj side
  globalWhere := Text.nonBlank_nonBlank _

end Passes

/-! ### The invariant of a loaded query -/

/-- Under the identities of the document, loading is checking. -/
theorem load_preserve (d : Document) (supply : IdSupply) :
    (d.load .preserve).run supply = (d.toQuery, supply) := by
  unfold load
  cases d.toQuery <;> rfl

/-- **What a loaded query fulfils.** For every document that is accepted under its identities:

* a table of the query has the identity of its constants container exactly if one of the document
  has;
* the items of the constants container are found by their identities, in that container;
* a table with another identity than the constants container is found by it, and its items are
  found, in that table;
* a table with the identity of the constants container is not found, and none of its items is;
* the selected items with a sort order are on the sort list exactly if they are on that of the
  document;
* the consistency check of the library accepts the query;
* the query has the invariant that edits keep if and only if no table of the document has the
  identity of the constants container and the selected items with a sort order are on its sort
  list. -/
theorem load_coherent_iff {supply supply' : IdSupply}
    (hload : (d.load .preserve).run supply = (.ok q, supply')) :
    (q.constants.id ∉ q.tableIds ↔ ∀ k ∈ d.tables, k.id ≠ d.constants.id) ∧
    (∀ x ∈ q.constants.items,
      q.item? x.id = some x ∧ q.containerOf? x.id = some q.constants) ∧
    (∀ k ∈ q.tables, k.id ≠ q.constants.id → q.container? k.id = some k ∧
      ∀ x ∈ k.items, q.item? x.id = some x ∧ q.containerOf? x.id = some k) ∧
    (∀ k ∈ q.tables, k.id = q.constants.id →
      q.container? k.id = some q.constants ∧ ∀ x ∈ k.items, q.item? x.id = none) ∧
    ((∀ x ∈ q.items, x.selected = true → x.sortOrder.isOrdered = true → x.id ∈ q.sortList) ↔
      d.ListsSorted) ∧
    q.isConsistent = true ∧
    (q.Coherent ↔ (∀ k ∈ d.tables, k.id ≠ d.constants.id) ∧ d.ListsSorted) := by
  -- the loaded query is `d.loaded`, so every part is a statement about the document
  rw [load_preserve] at hload
  obtain ⟨h, rfl⟩ := toQuery_eq_ok_iff.mp (Prod.mk.inj hload).1
  have hclash := constants_notMem_loaded d (d.joins.foldl .extend .empty)
  have hlists := listsSorted_iff d (d.joins.foldl .extend .empty)
  refine ⟨hclash, fun x hx => ?_, fun k hk hid => ?_,
    fun k hk hid => item?_loaded_of_clash h.items_nodup hk hid, hlists.symm, h.isConsistent_loaded,
    fun hcoherent => ⟨hclash.mp hcoherent.constants_notMem, hlists.mpr ?_⟩,
    fun hboth => h.coherent_loaded hboth.1 hboth.2⟩
  · exact item?_loaded_of_found h.items_nodup List.mem_cons_self (if_pos rfl) hx
  · have hfound := container?_loaded_of_table h.tables_nodup hk hid
    exact ⟨hfound, fun x hx =>
      item?_loaded_of_found h.items_nodup (List.mem_cons_of_mem _ hk) hfound hx⟩
  · -- a coherent query lists every key, selected and with an order
    intro x hx hselected hordered
    exact (hcoherent.mem_sortList hx).mpr (Bool.and_eq_true_iff.mpr ⟨hselected, hordered⟩)

/-- The sample can be loaded, and what is loaded has the invariant. -/
theorem load_coherent_sample :
    ((sample 6 [⟨.ofNat 7⟩] [⟨.ofNat 7⟩]).load .preserve).run (.after 0) =
        (.ok ((sample 6 [⟨.ofNat 7⟩] [⟨.ofNat 7⟩]).loaded .empty), .after 0) ∧
      ((sample 6 [⟨.ofNat 7⟩] [⟨.ofNat 7⟩]).loaded .empty).Coherent := by
  have hload : ((sample 6 [⟨.ofNat 7⟩] [⟨.ofNat 7⟩]).load .preserve).run (.after 0) =
      (.ok ((sample 6 [⟨.ofNat 7⟩] [⟨.ofNat 7⟩]).loaded .empty), .after 0) := rfl
  exact ⟨hload, (load_coherent_iff hload).2.2.2.2.2.2.mpr ⟨by decide, by decide⟩⟩

/-- **Two documents whose queries lack the invariant.** In the first one the table has the identity
of the constants container, in the second one the item is selected and has a sort order, and the
sort list is empty. Both are accepted, and the check of the library accepts both queries. -/
theorem load_incoherent :
    (∃ q, ((sample 5 [] []).load .preserve).run (.after 0) = (.ok q, .after 0) ∧
      q.isConsistent = true ∧
      ∃ k ∈ q.tables, q.container? k.id ≠ some k ∧ ∃ x ∈ k.items, q.item? x.id = none) ∧
    ∃ q, ((sample 6 [⟨.ofNat 7⟩] []).load .preserve).run (.after 0) = (.ok q, .after 0) ∧
      q.isConsistent = true ∧
      ∃ x ∈ q.items, x.selected = true ∧ x.sortOrder.isOrdered = true ∧ x.id ∉ q.sortList := by
  refine ⟨⟨(sample 5 [] []).loaded .empty, rfl, by decide, _, List.mem_cons_self, ?_, by decide⟩,
    (sample 6 [⟨.ofNat 7⟩] []).loaded .empty, rfl, by decide, by decide⟩
  -- the constants container is found in place of the table
  intro hfound
  exact absurd (congrArg (Option.map (·.name)) hfound) (by decide)

end Document

end VisualQuery
