import VisualQuery.Proofs.Change
import VisualQuery.Proofs.Housing
import VisualQuery.Proofs.JoinRegistry.Coherent
import VisualQuery.Proofs.Query.Listing

/-!
# The query invariant

A query keeps the same facts in several places: which tables there are, which container holds an
item, which items are selected, which of them are sorted, and which joins there are.
`Query.Coherent` says that the places agree. It is what every history of edits keeps, and it is
stronger than the check that the library runs (`Query.isConsistent`): the index and the sort list
are complete, and the container of an item is known.

The invariant speaks about the model only. What belongs to an open compound edit and most of the
settings can be changed freely (`Coherent.congr`).
-/

namespace VisualQuery

/-- Whether an item is a sort key: it is selected and has a direction. -/
def Item.isSorted (x : Item) : Bool := x.selected && x.sortOrder.isOrdered

namespace Query

/-- **The places agree in which a query keeps its facts.** -/
structure Coherent (q : Query) : Prop where
  /-- The map holds the tables that the from-list names, in that order. -/
  mapped : q.tables.map (·.id) = q.tableIds
  /-- Each item is in one container, and the index tells which. -/
  housed : Housed q.containers q.itemIndex
  /-- The constants container is one. -/
  constants_kind : q.constants.isConstants = true
  /-- The tables are not. -/
  tables_kind : ∀ k ∈ q.tables, k.isConstants = false
  /-- The selection lists the selected items. -/
  selection : Listing q.items (·.selected) q.selection
  /-- The sort list lists the selected items with a direction. -/
  sortList : Listing q.items Item.isSorted q.sortList
  /-- The joins and their index agree, and so do the outer flags. -/
  joins : q.joins.Coherent
  /-- The ends of the joins are at tables that hold their items. -/
  ends : ∀ j ∈ q.joins.joins, ∀ side, q.holdsEnd (j.atSide side) = true
  /-- A filter that is blank is not kept. -/
  globalWhere : Text.nonBlank q.globalWhere = q.globalWhere

variable {q q' : Query}

/-- If the map holds exactly the tables that the from-list names, then going through the from-list
and looking each identity up gives the tables. -/
theorem fromTables_eq (hmapped : q.tables.map (·.id) = q.tableIds) (hnodup : q.tableIds.Nodup) :
    q.fromTables = q.tables := by
  rw [fromTables, ← hmapped]
  exact Keyed.filterMap_find? (hmapped ▸ hnodup)

/-- **The from-list names the tables of the map**, each once, and the registration order the joins.
Edits keep this whatever they are given, and it is all that a document depends on. -/
structure Listed (q : Query) : Prop where
  /-- The map holds the tables that the from-list names, in that order. -/
  mapped : q.tables.map (·.id) = q.tableIds
  /-- The from-list names no table twice. -/
  nodup : q.tableIds.Nodup
  /-- The joins and their index agree, and so do the outer flags. -/
  joins : q.joins.Coherent

theorem Listed.fromTables_eq (h : q.Listed) : q.fromTables = q.tables :=
  Query.fromTables_eq h.mapped h.nodup

theorem containers_eq (htables : q'.tables = q.tables) (hconstants : q'.constants = q.constants) :
    q'.containers = q.containers := by
  rw [containers, containers, hconstants, htables]

/-- An end of a join is held if some table has the item. -/
theorem Coherent.holdsEnd_iff (h : Housed q.containers q.itemIndex) {e : JoinEnd} :
    q.holdsEnd e = true ↔ ∃ k ∈ q.tables, k.id = e.container ∧ e.item ∈ k.items.map (·.id) := by
  rw [holdsEnd]
  cases hk : q.table? e.container with
  | none =>
    refine ⟨fun hfalse => absurd hfalse (by simp), ?_⟩
    rintro ⟨k, hkq, hid, -⟩
    rw [h.table?_iff.mpr ⟨hkq, hid⟩] at hk
    exact absurd hk (by simp)
  | some k =>
    rw [Option.map_some, Option.getD_some, Container.contains_iff]
    obtain ⟨hkq, hid⟩ := h.table?_iff.mp hk
    constructor
    · exact fun hx => ⟨k, hkq, hid, hx⟩
    · -- identifiers are unique, so it is the table that was found
      rintro ⟨k', hkq', hid', hx⟩
      have hkk : k' = k := h.eq_of_id (List.mem_cons_of_mem _ hkq') (List.mem_cons_of_mem _ hkq)
        (hid'.trans hid.symm)
      rwa [← hkk]

/-- What the consistency check of the library asks for. It says nothing about the index, and of the
sort list only that its items belong there. -/
theorem isConsistent_of_listing (hfrom : q.fromTables = q.tables)
    (hitems : (q.items.map (·.id)).Nodup)
    (hselection : Listing q.items (·.selected) q.selection)
    (hsorted : ∀ id ∈ q.sortList, ∃ x, q.item? id = some x ∧ x.isSorted = true)
    (hnodup : q.sortList.Nodup) (hjoins : q.joins.Coherent)
    (hends : ∀ j ∈ q.joins.joins, ∀ side, q.holdsEnd (j.atSide side) = true) :
    q.isConsistent = true := by
  -- the check walks the tables before the constants, the items are listed the other way round
  have hperm : ((q.fromTables ++ [q.constants]).flatMap (·.items)).Perm q.items := by
    rw [hfrom]
    exact
      List.perm_append_singleton q.constants q.tables |>.flatMap_right _
  have hcount : ∀ x ∈ (q.fromTables ++ [q.constants]).flatMap (·.items),
      (q.selection.count x.id == if x.selected then 1 else 0) = true := by
    intro x hx
    rw [beq_iff_eq, hselection.count_eq hitems (hperm.mem_iff.mp hx)]
  have hlength : q.selection.length =
      ((q.fromTables ++ [q.constants]).flatMap (·.items)).countP (·.selected) := by
    rw [hselection.length_eq hitems, hperm.countP_eq]
  have hkeys : ∀ id ∈ q.sortList, q.isSortKey id = true := by
    intro id hid
    obtain ⟨x, hx, hkey⟩ := hsorted id hid
    rw [isSortKey, hx]
    exact hkey
  rw [Query.isConsistent, hjoins.inOrder_eq]
  simp only [Bool.and_eq_true, List.all_eq_true, beq_iff_eq, decide_eq_true_iff]
  refine ⟨⟨⟨⟨⟨?_, hlength⟩, hkeys⟩, hnodup⟩, hjoins.isConsistent⟩, ?_⟩
  · simpa only [beq_iff_eq] using hcount
  · exact fun j hj => ⟨hends j hj .left, hends j hj .right⟩

namespace Coherent

/-! ### What it says about tables and items -/

theorem tableIds_nodup (h : q.Coherent) : q.tableIds.Nodup :=
  h.mapped ▸ (List.nodup_cons.mp h.housed.containers_nodup).2

theorem constants_notMem (h : q.Coherent) : q.constants.id ∉ q.tableIds :=
  h.mapped ▸ (List.nodup_cons.mp h.housed.containers_nodup).1

theorem listed (h : q.Coherent) : q.Listed := ⟨h.mapped, h.tableIds_nodup, h.joins⟩

/-- The from-list names a table if the map holds it. -/
theorem mem_tableIds (h : q.Coherent) {c : ContainerId} :
    c ∈ q.tableIds ↔ ∃ k ∈ q.tables, k.id = c := by
  rw [← h.mapped, List.mem_map]

theorem id_mem_tableIds (h : q.Coherent) {k : Container} (hk : k ∈ q.tables) :
    k.id ∈ q.tableIds := h.mem_tableIds.mpr ⟨k, hk, rfl⟩

/-- An identity that no container has is not on the from-list. -/
theorem notMem_tableIds (h : q.Coherent) {c : ContainerId} (hc : c ∉ q.containers.map (·.id)) :
    c ∉ q.tableIds := fun hmem => hc (List.mem_cons_of_mem _ (h.mapped ▸ hmem))

/-- The constants container is none of the tables. -/
theorem id_ne_constants (h : q.Coherent) {k : Container} (hk : k ∈ q.tables) :
    k.id ≠ q.constants.id := fun heq => h.constants_notMem (heq ▸ h.id_mem_tableIds hk)

/-- Going through the from-list and looking each identity up gives the tables. -/
theorem fromTables_eq (h : q.Coherent) : q.fromTables = q.tables :=
  Query.fromTables_eq h.mapped h.tableIds_nodup

theorem itemsInOrder_eq (h : q.Coherent) : q.itemsInOrder = q.items := by
  rw [itemsInOrder, h.fromTables_eq]
  rfl

theorem itemIds_nodup (h : q.Coherent) : (q.items.map (·.id)).Nodup := h.housed.items_nodup

theorem mem_selection (h : q.Coherent) {x : Item} (hx : x ∈ q.items) :
    x.id ∈ q.selection ↔ x.selected = true := h.selection.mem_iff_flag h.itemIds_nodup hx

theorem mem_sortList (h : q.Coherent) {x : Item} (hx : x ∈ q.items) :
    x.id ∈ q.sortList ↔ x.isSorted = true := h.sortList.mem_iff_flag h.itemIds_nodup hx

/-- Looking a listed item up finds it. -/
theorem item?_of_mem (h : q.Coherent) {x : Item} (hx : x ∈ q.items) : q.item? x.id = some x :=
  h.housed.item?_iff.mpr ⟨hx, rfl⟩

/-- The item at an end of a join is known. -/
theorem item?_end (h : q.Coherent) {j : Join} (hj : j ∈ q.joins.joins) (side : Side) :
    ∃ x ∈ q.items, x.id = (j.atSide side).item ∧ q.item? (j.atSide side).item = some x := by
  obtain ⟨k, hk, -, hitem⟩ := (holdsEnd_iff h.housed).mp (h.ends j hj side)
  obtain ⟨x, hx, hid⟩ := List.mem_map.mp hitem
  have hxq : x ∈ q.items := mem_items.mpr ⟨k, List.mem_cons_of_mem _ hk, hx⟩
  exact ⟨x, hxq, hid, hid ▸ h.item?_of_mem hxq⟩

/-- The ends of a join are at tables of the from-list. -/
theorem end_mem_tableIds (h : q.Coherent) {j : Join} (hj : j ∈ q.joins.joins) (side : Side) :
    (j.atSide side).container ∈ q.tableIds := by
  obtain ⟨k, hk, hid, -⟩ := (holdsEnd_iff h.housed).mp (h.ends j hj side)
  exact h.mem_tableIds.mpr ⟨k, hk, hid⟩

/-! ### The check of the library -/

/-- **The consistency check accepts every query with the invariant.** -/
theorem isConsistent (h : q.Coherent) : q.isConsistent = true := by
  refine isConsistent_of_listing h.fromTables_eq h.itemIds_nodup h.selection (fun id hid => ?_)
    h.sortList.nodup h.joins h.ends
  obtain ⟨x, hx, rfl, hsorted⟩ := (h.sortList.mem_iff id).mp hid
  exact ⟨x, h.item?_of_mem hx, hsorted⟩

/-- Other joins can take the place of the joins, if their ends are held. -/
theorem withJoins (h : q.Coherent) {r : JoinRegistry} (hr : r.Coherent)
    (hends : ∀ j ∈ r.joins, ∀ side, q.holdsEnd (j.atSide side) = true) :
    { q with joins := r }.Coherent :=
  ⟨h.mapped, h.housed, h.constants_kind, h.tables_kind, h.selection, h.sortList, hr, hends,
    h.globalWhere⟩

/-! ### Changes beside the model -/

/-- The invariant does not read the settings, but for the filter of the query, nor what belongs to a
compound edit. -/
theorem congr (h : q.Coherent) (htables : q'.tables = q.tables)
    (htableIds : q'.tableIds = q.tableIds) (hconstants : q'.constants = q.constants)
    (hindex : q'.itemIndex = q.itemIndex)
    (hselection : q'.selection = q.selection) (hsort : q'.sortList = q.sortList)
    (hjoins : q'.joins = q.joins) (hwhere : Text.nonBlank q'.globalWhere = q'.globalWhere) :
    q'.Coherent := by
  have hcontainers : q'.containers = q.containers := containers_eq htables hconstants
  have hitems : q'.items = q.items := by rw [items, items, hcontainers]
  -- ends are looked up in the tables alone, which are the same ones
  have hends : ∀ e, q'.holdsEnd e = q.holdsEnd e := by
    intro e
    rw [holdsEnd, holdsEnd, table?, table?, htables]
  refine ⟨?_, ?_, ?_, ?_, ?_, ?_, ?_, ?_, hwhere⟩
  · rw [htables, htableIds]
    exact h.mapped
  · rw [hcontainers, hindex]
    exact h.housed
  · rw [hconstants]
    exact h.constants_kind
  · rw [htables]
    exact h.tables_kind
  · rw [hitems, hselection]
    exact h.selection
  · rw [hitems, hsort]
    exact h.sortList
  · rw [hjoins]
    exact h.joins
  · rw [hjoins]
    intro j hj side
    rw [hends]
    exact h.ends j hj side

theorem notedIf (h : q.Coherent) (b : Bool) : (q.notedIf b).Coherent :=
  h.congr rfl rfl rfl rfl rfl rfl rfl h.globalWhere

theorem noted (h : q.Coherent) : q.noted.Coherent := h.notedIf true

theorem opened (h : q.Coherent) (message : String) : (q.opened message).Coherent := by
  rw [Query.opened]
  split <;> exact h.congr rfl rfl rfl rfl rfl rfl rfl h.globalWhere

theorem closed (h : q.Coherent) : q.closed.Coherent := by
  rw [Query.closed]
  split <;> exact h.congr rfl rfl rfl rfl rfl rfl rfl h.globalWhere

end Coherent

/-! ### A new query -/

/-- The built-in constants are neither selected nor sorted. -/
theorem builtins_plain {k : Container} {ids : BuiltinIds} (hk : k.items = Container.builtins ids)
    {x : Item} (hx : x ∈ k.adopt.items) : x.selected = false ∧ x.isSorted = false := by
  obtain ⟨y, hy, rfl⟩ := List.mem_map.mp hx
  rw [hk] at hy
  simp only [Container.builtins, List.mem_cons, List.not_mem_nil, or_false] at hy
  rcases hy with rfl | rfl | rfl | rfl <;> exact ⟨rfl, rfl⟩

/-- A query without tables has the invariant, if its constants are the built-in ones and have
distinct identities. -/
theorem coherent_onConstants (id : QueryId) (name : String) {k : Container}
    (hk : k.isConstants = true) {ids : BuiltinIds} (hitems : k.items = Container.builtins ids)
    (hids : ids.toList.Nodup) : (onConstants id name k.adopt).Coherent := by
  -- the builtins are neither selected nor sorted, so both lists start empty
  have hplain : ∀ x ∈ (onConstants id name k.adopt).items,
      x.selected = false ∧ x.isSorted = false := by
    intro x hx
    rw [items, containers, onConstants, List.flatMap_singleton] at hx
    exact builtins_plain hitems hx
  have hnd : (k.adopt.items.map (·.id)).Nodup := by
    rw [k.adopt_ids, hitems]
    exact hids
  exact {
    mapped := rfl
    housed := Housed.nil.append List.not_mem_nil hnd (fun _ _ => rfl)
      (fun x hx => Container.adopt_parent (c := k) hx)
    constants_kind := hk
    tables_kind := fun k hk => absurd hk List.not_mem_nil
    selection := Listing.of_none fun x hx => (hplain x hx).1
    sortList := Listing.of_none fun x hx => (hplain x hx).2
    joins := .empty
    ends := fun j hj => absurd hj List.not_mem_nil
    globalWhere := rfl }

end Query

end VisualQuery
