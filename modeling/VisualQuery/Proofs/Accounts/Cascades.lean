import VisualQuery.Proofs.Accounts.Adding
import VisualQuery.Proofs.Accounts.Changes
import VisualQuery.Proofs.Accounts.Joins

/-!
# Removals are accounted for

A removal is a cascade. An item leaves the selection, its joins are removed, and then it is taken
out of its container; a table does the same for all its items. Every step of a cascade starts from a
query with the invariant and is a change by itself, so a cascade is accounted for because its steps
are.

What is new in a cascade is the last step (`Query.takeItem`, `Query.takeTable`), which is only made
on what nothing refers to any more. There it leaves `Query.withoutItem` or `Query.withoutTable`
behind.
-/

namespace VisualQuery.Query

open Change

variable {e : Edit} {start q : Query}

/-! ### Items and joins, one after the other -/

theorem Coherent.accounted_deselectAll (h : q.Coherent) (ids : List ItemId) :
    Accounted e start q (deselectAll ids q) := by
  induction ids generalizing q with
  | nil => exact .of_silent rfl h
  | cons id ids ih => exact (h.accounted_setItemSelected id false).bind fun _ _ _ h₁ => ih h₁

/-- A query without one of its joins has the invariant. -/
theorem Coherent.withoutJoin (h : q.Coherent) {j : Join} (hj : j ∈ q.joins.joins) :
    { q with joins := q.joins.without j }.Coherent :=
  h.withJoins (h.joins.without hj) fun k hk => h.ends k (JoinRegistry.mem_without.mp hk).1

theorem Coherent.accounted_removeJoins (h : q.Coherent) (ids : List JoinId) :
    Accounted e start q (removeJoins ids q) := by
  -- each removal is told of from the query that the ones before it lead to
  induction ids generalizing q with
  | nil => exact .of_silent rfl h
  | cons id ids ih =>
    rw [removeJoins, get_bind, JoinRegistry.remove?_eq]
    cases hj : q.joins.get? id with
    -- the join went with an earlier one of the list
    | none => exact ih h
    | some j =>
      have hcoh := h.withoutJoin (JoinRegistry.get?_eq_some hj).1
      rw [Option.map_some]
      dsimp only
      rw [modify_bind]
      refine Accounted.bind ?_ fun _ _ _ h₁ => ih h₁
      rw [announce_apply rfl]
      exact .of_announced (tells_without j) hcoh

/-! ### Taking an item out -/

/-- The last step of taking an item out. -/
def takeItem (id : ItemId) : Change Item := do
  let c ← need (.unknownItem id) ((← get).itemIndex.get? id)
  let container ← needContainer c
  let (item, container) ← need (.unknownItem id) (container.remove? id)
  modify fun q =>
    { q.modifyContainer c (fun _ => container) with itemIndex := q.itemIndex.erase id }
  announce (.itemRemoved c id)
  return item

theorem detachItem_eq (id : ItemId) :
    detachItem id = (do
      setItemSelected id false
      removeJoins ((← get).joins.idsOfItem id)
      takeItem id) := rfl

/-- An item that is not selected and at no join only has to be taken out of its container. -/
theorem Coherent.withoutItem_of_free (h : q.Coherent) {x : Item} (hx : x ∈ q.items)
    (hselected : x.selected = false) (hjoins : ∀ j ∈ q.joins.joins, j.references x.id = false) :
    q.withoutItem x.id =
      { q.filterItems (·.id ≠ x.id) with itemIndex := q.itemIndex.erase x.id } := by
  -- an item that is not selected is in neither list, and no join refers to it, so the filters take
  -- nothing out
  have hselection : q.selection.filter (· ≠ x.id) = q.selection := by
    refine List.filter_eq_self.mpr fun id hid => decide_eq_true fun heq => ?_
    rw [heq, h.mem_selection hx, hselected] at hid
    exact Bool.false_ne_true hid
  have hsort : q.sortList.filter (· ≠ x.id) = q.sortList := by
    refine List.filter_eq_self.mpr fun id hid => decide_eq_true fun heq => ?_
    rw [heq, h.mem_sortList hx, Item.isSorted, hselected] at hid
    exact Bool.false_ne_true hid
  have hnone : q.joins.idsOfItem x.id = [] := by
    rw [JoinRegistry.idsOfItem, h.joins.inOrder_eq, List.map_eq_nil_iff, List.filter_eq_nil_iff]
    intro j hj
    rw [hjoins j hj]
    exact Bool.false_ne_true
  rw [Query.withoutItem, hselection, hsort, hnone]
  rfl

theorem Coherent.takeItem_of_free (h : q.Coherent) {k : Container} (hk : k ∈ q.containers)
    {x : Item} (hx : x ∈ k.items) (hselected : x.selected = false)
    (hjoins : ∀ j ∈ q.joins.joins, j.references x.id = false) :
    takeItem x.id q =
      .announced { x with parent := none } (q.withoutItem x.id) (.itemRemoved k.id x.id) := by
  rw [takeItem, get_bind, h.get?_itemIndex hk hx, bind_of_silent (need_some _ _ q),
    bind_of_silent (needContainer_of_some (h.container?_of_mem hk)),
    Container.remove?_eq (h.housed.nodup_of_mem hk) hx, bind_of_silent (need_some _ _ q)]
  dsimp only
  -- the item is taken out of its container and of the index, and stands on no other list
  rw [modify_bind, h.housed.filterItem_eq hk (List.mem_map_of_mem hx), announce_return rfl,
    h.withoutItem_of_free (mem_items.mpr ⟨k, hk, hx⟩) hselected hjoins]

/-- The query that still holds an item to which nothing refers any more. -/
def release (id : ItemId) (q : Query) : Query :=
  { q.deselect (· = id) with joins := (q.joins.removeAll (q.joins.idsOfItem id)).2 }

/-- The item is where it was, and not selected. -/
theorem mem_release {k : Container} (hk : k ∈ q.containers) {x : Item} (hx : x ∈ k.items) :
    ∃ k' ∈ (q.release x.id).containers, k'.id = k.id ∧ { x with selected := false } ∈ k'.items := by
  let g : Item → Item := fun y => { y with selected := y.selected && !decide (y.id = x.id) }
  have hgx : g x = { x with selected := false } := by
    show ({ x with selected := x.selected && !decide (x.id = x.id) } : Item) = _
    rw [decide_eq_true rfl, Bool.not_true, Bool.and_false]
  exact ⟨k.mapItems g, List.mem_map_of_mem hk, rfl, hgx ▸ List.mem_map_of_mem hx⟩

namespace Coherent

theorem references_release (h : q.Coherent) (id : ItemId) {j : Join}
    (hj : j ∈ (q.release id).joins.joins) : j.references id = false := by
  obtain ⟨-, -, hleft⟩ := h.joins.removeOfItem_eq id
  change j ∈ (q.joins.removeAll (q.joins.idsOfItem id)).2.joins at hj
  rw [hleft, List.mem_filter, Bool.not_eq_true'] at hj
  exact hj.2

theorem release (h : q.Coherent) (id : ItemId) : (q.release id).Coherent := by
  obtain ⟨-, hjoins, hleft⟩ := h.joins.removeOfItem_eq id
  have hdeselect := h.deselect (· = id)
  refine hdeselect.withJoins hjoins fun j hj => hdeselect.ends j ?_
  exact List.mem_of_mem_filter (hleft ▸ hj)

end Coherent

theorem Coherent.accounted_takeItem (h : q.Coherent) {x : Item} (hx : x ∈ q.items)
    (hselected : x.selected = false) (hjoins : ∀ j ∈ q.joins.joins, j.references x.id = false) :
    Accounted e start q (takeItem x.id q) := by
  obtain ⟨k, hk, hxk⟩ := mem_items.mp hx
  have hcoh := h.withoutItem x.id
  rw [h.takeItem_of_free hk hxk hselected hjoins]
  rw [h.withoutItem_of_free hx hselected hjoins] at hcoh ⊢
  refine .of_announced (.of_loss rfl rfl rfl rfl fun t p v hv => ?_) hcoh
  -- whoever is left was there before
  rw [hcoh.value?_iff] at hv
  rw [h.value?_iff]
  cases t with
  | query | join => exact hv
  | container c =>
    obtain ⟨_, hmem, rfl, hv⟩ := hv
    obtain ⟨k', hk', rfl⟩ : ∃ k' ∈ q.containers, k'.filterItems (·.id ≠ x.id) = _ :=
      List.mem_map.mp hmem
    exact ⟨k', hk', rfl, hv⟩
  | item i =>
    obtain ⟨y, hy, hid, hv⟩ := hv
    have hy : y ∈ (q.filterItems (·.id ≠ x.id)).items := hy
    rw [items_filterItems] at hy
    exact ⟨y, List.mem_of_mem_filter hy, hid, hv⟩

theorem Coherent.accounted_detachItem (h : q.Coherent) (id : ItemId) :
    Accounted e start q (Query.detachItem id q) := by
  rw [detachItem_eq]
  by_cases hid : id ∈ q.items.map (·.id)
  · obtain ⟨x, hx, rfl⟩ := List.mem_map.mp hid
    refine (h.accounted_setItemSelected x.id false).bind_reaches (h.deselectItem hx) fun h₁ => ?_
    rw [get_bind]
    refine (h₁.accounted_removeJoins _).bind_reaches (removeJoins_reaches _ _) fun h₂ => ?_
    -- nothing refers to the item any more
    obtain ⟨k, hk, hxk⟩ := mem_items.mp hx
    obtain ⟨k', hk', -, hy⟩ := mem_release hk hxk
    exact h₂.accounted_takeItem (x := { x with selected := false }) (mem_items.mpr ⟨k', hk', hy⟩)
      rfl fun j hj => h.references_release x.id hj
  · rw [bind_of_refused (h.setItemSelected_of_notMem hid false)]
    exact .of_refused h _

theorem Coherent.accounted_removeItem (h : q.Coherent) (id : ItemId) :
    Accounted e start q (Query.removeItem id q) := by
  rw [Query.removeItem, get_bind]
  cases q.item? id with
  | none =>
    rw [bind_of_refused (need_none _ q)]
    exact .of_refused h _
  | some x =>
    rw [bind_of_silent (need_some _ _ q)]
    exact .asCompoundEdit h ((h.opened _).accounted_detachItem id)

/-! ### Taking a table out -/

/-- The last step of taking a table out. -/
def takeTable (id : ContainerId) : Change Container := do
  let table ← need (.unknownContainer id) ((← get).table? id)
  modify fun q =>
    { q with
      tables := q.tables.filter (·.id ≠ id)
      tableIds := q.tableIds.filter (· ≠ id)
      itemIndex := table.items.foldl (fun index x => index.erase x.id) q.itemIndex }
  announce (.containerRemoved id)
  return table

theorem detachTable_eq (id : ContainerId) :
    detachTable id = (do
      let table ← need (.unknownContainer id) ((← get).table? id)
      deselectAll ((table.items.filter (·.selected)).map (·.id))
      let (removed, joins) := (← get).joins.removeContainer id
      modify fun q => { q with joins }
      announceAll (removed.map .joinRemoved)
      takeTable id) := rfl

/-- A table without selected items and joins only has to be taken off the from-list. -/
theorem Coherent.withoutTable_of_free (h : q.Coherent) {k : Container} (hk : k ∈ q.tables)
    (hselected : ∀ x ∈ k.items, x.selected = false)
    (hjoins : ∀ j ∈ q.joins.joins, j.touches k.id = false) :
    q.withoutTable k =
      { q with
        tables := q.tables.filter (·.id ≠ k.id)
        tableIds := q.tableIds.filter (· ≠ k.id)
        itemIndex := k.items.foldl (fun index x => index.erase x.id) q.itemIndex } := by
  -- whatever is on one of the lists is selected
  have hkeep : ∀ {flag : Item → Bool} {ids : List ItemId}, Listing q.items flag ids →
      (∀ x, flag x = true → x.selected = true) → ids.filter (· ∉ k.items.map (·.id)) = ids := by
    intro flag ids hids hflag
    refine List.filter_eq_self.mpr fun id hid => decide_eq_true fun hmem => ?_
    obtain ⟨x, hx, rfl, hfx⟩ := (hids.mem_iff id).mp hid
    obtain ⟨y, hy, hyx⟩ := List.mem_map.mp hmem
    have hyq : y ∈ q.items := mem_items.mpr ⟨k, List.mem_cons_of_mem _ hk, hy⟩
    obtain rfl := h.housed.eq_of_itemId hyq hx hyx
    exact Bool.false_ne_true ((hselected y hy).symm.trans (hflag y hfx))
  have hnone : q.joins.idsAt k.id = [] := by
    rw [h.joins.idsAt_eq, List.map_eq_nil_iff, List.filter_eq_nil_iff]
    intro j hj
    rw [hjoins j hj]
    exact Bool.false_ne_true
  rw [Query.withoutTable, hkeep h.selection fun _ hx => hx,
    hkeep h.sortList fun _ hx => (Bool.and_eq_true _ _ ▸ hx).1, JoinRegistry.removeContainer, hnone]
  rfl

theorem Coherent.accounted_takeTable (h : q.Coherent) {k : Container} (hk : k ∈ q.tables)
    (hselected : ∀ x ∈ k.items, x.selected = false)
    (hjoins : ∀ j ∈ q.joins.joins, j.touches k.id = false) :
    Accounted e start q (takeTable k.id q) := by
  have hcoh := h.withoutTable hk
  rw [h.withoutTable_of_free hk hselected hjoins] at hcoh
  rw [takeTable, get_bind, h.housed.table?_iff.mpr ⟨hk, rfl⟩, bind_of_silent (need_some _ _ q),
    modify_bind, announce_return rfl]
  refine .of_announced (.of_loss rfl rfl rfl rfl fun t p v hv => ?_) hcoh
  -- whoever is left was there before
  have hsub : ∀ k' ∈ q.constants :: q.tables.filter (·.id ≠ k.id), k' ∈ q.containers := by
    intro k' hk'
    rcases List.mem_cons.mp hk' with rfl | hk'
    · exact List.mem_cons_self
    · exact List.mem_cons_of_mem _ (List.mem_of_mem_filter hk')
  rw [hcoh.value?_iff] at hv
  rw [h.value?_iff]
  cases t with
  | query | join => exact hv
  | container c =>
    obtain ⟨k', hk', hid, hv⟩ := hv
    exact ⟨k', hsub k' hk', hid, hv⟩
  | item i =>
    obtain ⟨y, hy, hid, hv⟩ := hv
    obtain ⟨k', hk', hy⟩ := mem_items.mp hy
    exact ⟨y, mem_items.mpr ⟨k', hsub k' hk', hy⟩, hid, hv⟩

theorem Coherent.accounted_detachTable (h : q.Coherent) (id : ContainerId) :
    Accounted e start q (Query.detachTable id q) := by
  rw [detachTable_eq, get_bind]
  cases hid : q.table? id with
  | none =>
    rw [bind_of_refused (need_none _ q)]
    exact .of_refused h _
  | some k =>
    obtain ⟨hk, rfl⟩ := h.housed.table?_iff.mp hid
    rw [bind_of_silent (need_some _ _ q)]
    let ids := (k.items.filter (·.selected)).map (·.id)
    have hids : ∀ id ∈ ids, id ∈ q.items.map (·.id) := fun id hid =>
      mem_itemIds.mpr ⟨k, List.mem_cons_of_mem _ hk, (List.filter_sublist.map _).subset hid⟩
    obtain ⟨b, hdeselect⟩ := h.deselectAll_reaches hids
    refine (h.accounted_deselectAll ids).bind_reaches hdeselect fun h₁ => ?_
    rw [get_bind]
    dsimp only
    rw [modify_bind]
    -- the joins are taken out at once, and announced one after the other
    obtain ⟨-, hjoins, hleft⟩ := h.joins.removeContainer_eq k.id
    let q₁ := (q.deselect (· ∈ ids)).notedIf b
    have h₂ : { q₁ with joins := (q.joins.removeContainer k.id).2 }.Coherent :=
      h₁.withJoins hjoins fun j hj => h₁.ends j (List.mem_of_mem_filter (hleft ▸ hj))
    have hmarker : ∀ event ∈ (q.joins.removeContainer k.id).1.map Event.joinRemoved,
        event.isMarker = false := by
      intro event hevent
      obtain ⟨j, -, rfl⟩ := List.mem_map.mp hevent
      rfl
    refine (Accounted.announceAll (recounts_removeAll (q := q₁) _ q.joins) h₂ hmarker).bind_reaches
      (Reaches.announceAll hmarker _) fun h₃ => ?_
    -- nothing refers to the table any more
    let g : Item → Item := fun x => { x with selected := x.selected && !decide (x.id ∈ ids) }
    refine h₃.accounted_takeTable (k := k.mapItems g) (List.mem_map_of_mem hk) ?_ fun j hj => ?_
    · intro x' hx'
      obtain ⟨x, hx, rfl⟩ := List.mem_map.mp hx'
      change (x.selected && !decide (x.id ∈ ids)) = false
      cases hselected : x.selected with
      | false => rfl
      | true =>
        have hmem : x.id ∈ ids := List.mem_map_of_mem (List.mem_filter.mpr ⟨hx, hselected⟩)
        rw [decide_eq_true hmem]
        rfl
    · change j ∈ (q.joins.removeContainer k.id).2.joins at hj
      rw [hleft, List.mem_filter, Bool.not_eq_true'] at hj
      exact hj.2

theorem Coherent.accounted_removeTable (h : q.Coherent) (id : ContainerId) :
    Accounted e start q (Query.removeTable id q) := by
  by_cases hid : id = q.constants.id
  · rw [hid, removeTable_of_constants]
    exact .of_refused h _
  · cases hk : q.table? id with
    | none =>
      rw [removeTable_of_none hid hk]
      exact .of_refused h _
    | some k =>
      -- the table is known, so the removal is made inside a compound edit of its own
      rw [Query.removeTable, get_bind, if_neg hid]
      change Accounted e start q ((get >>= _) q)
      rw [get_bind, hk, bind_of_silent (need_some _ _ q)]
      exact .asCompoundEdit h ((h.opened _).accounted_detachTable id)

/-! ### Several tables or items -/

theorem Coherent.accounted_detachTables (h : q.Coherent) (ids : List ContainerId) :
    Accounted e start q (detachTables ids q) := by
  induction ids generalizing q with
  | nil => exact .of_silent rfl h
  | cons id ids ih =>
    exact (Accounted.attempt (h.accounted_detachTable id)).bind fun _ _ _ h₁ => ih h₁

theorem Coherent.accounted_detachItems (h : q.Coherent) (ids : List ItemId) :
    Accounted e start q (detachItems ids q) := by
  induction ids generalizing q with
  | nil => exact .of_silent rfl h
  | cons id ids ih => exact (h.accounted_detachItem id).bind fun _ _ _ h₁ => ih h₁

end VisualQuery.Query
