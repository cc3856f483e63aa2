import VisualQuery.Proofs.JoinRegistry.Changes
import VisualQuery.Proofs.Query.Coherent

/-!
# Changes to items keep the invariant

For every change to items this module says what it comes to on a query with the invariant, as an
equation between outcomes: it is refused, or the query is left alone, or it becomes the query that
is named and one event is announced. Each such query has the invariant again.

The changes are defined by look-ups and by writes to the first item that fits. The queries here are
written as changes of all items (`Query.mapItems`, `Query.filterItems`), from which it can be read
off what stays the same.
-/

namespace VisualQuery.Query

open Change

variable {q : Query}

/-! ### Finding one item -/

theorem needContainer_of_some {c : ContainerId} {k : Container} (h : q.container? c = some k) :
    needContainer c q = .silent k q := by
  rw [needContainer, get_bind, h, need_some]

theorem needContainer_of_none {c : ContainerId} (h : q.container? c = none) :
    needContainer c q = .refused (.unknownContainer c) q := by
  rw [needContainer, get_bind, h, need_none]

namespace Coherent

theorem container?_of_mem (h : q.Coherent) {k : Container} (hk : k ∈ q.containers) :
    q.container? k.id = some k := h.housed.container?_iff.mpr ⟨hk, rfl⟩

/-- The index lists the container of each item. -/
theorem get?_itemIndex (h : q.Coherent) {k : Container} (hk : k ∈ q.containers) {x : Item}
    (hx : x ∈ k.items) : q.itemIndex.get? x.id = some k.id :=
  (h.housed.get?_iff x.id k.id).mpr ⟨k, hk, rfl, List.mem_map_of_mem hx⟩

theorem get?_itemIndex_eq_none (h : q.Coherent) {id : ItemId} (hid : id ∉ q.items.map (·.id)) :
    q.itemIndex.get? id = none := h.housed.get?_eq_none_iff.mpr hid

theorem isSome_get?_itemIndex (h : q.Coherent) {id : ItemId} (hid : id ∈ q.items.map (·.id)) :
    (q.itemIndex.get? id).isSome = true := by
  obtain ⟨x, hx, rfl⟩ := List.mem_map.mp hid
  obtain ⟨k, hk, hxk⟩ := mem_items.mp hx
  rw [h.get?_itemIndex hk hxk]
  rfl

theorem needItem_of_mem (h : q.Coherent) {k : Container} (hk : k ∈ q.containers) {x : Item}
    (hx : x ∈ k.items) : needItem x.id q = .silent (k.id, x) q := by
  have hitem : k.item? x.id = some x := (h.housed.container_item?_iff hk).mpr ⟨hx, rfl⟩
  rw [needItem, get_bind, h.get?_itemIndex hk hx, bind_of_silent (need_some _ _ q),
    bind_of_silent (needContainer_of_some (h.container?_of_mem hk)), hitem,
    bind_of_silent (need_some _ _ q)]
  rfl

theorem needItem_of_notMem (h : q.Coherent) {id : ItemId} (hid : id ∉ q.items.map (·.id)) :
    needItem id q = .refused (.unknownItem id) q := by
  rw [needItem, get_bind, h.get?_itemIndex_eq_none hid]
  exact bind_of_refused (need_none _ q)

/-! ### Writing to items -/

/-- An end of a join is held as before, if no table loses its items. -/
theorem holdsEnd_mono {q' : Query} (h : Housed q.containers q.itemIndex)
    (h' : Housed q'.containers q'.itemIndex) {e : JoinEnd}
    (hsub : ∀ k ∈ q.tables, k.id = e.container → e.item ∈ k.items.map (·.id) →
      ∃ k' ∈ q'.tables, k'.id = k.id ∧ e.item ∈ k'.items.map (·.id))
    (he : q.holdsEnd e = true) : q'.holdsEnd e = true := by
  obtain ⟨k, hk, hid, hitem⟩ := (holdsEnd_iff h).mp he
  obtain ⟨k', hk', hid', hitem'⟩ := hsub k hk hid hitem
  exact (holdsEnd_iff h').mpr ⟨k', hk', hid'.trans hid, hitem'⟩

/-- **Writing to items.** Identities and parents stay, and the lists follow the flags. -/
theorem writeItems (h : q.Coherent) {g : Item → Item} (hid : ∀ x, (g x).id = x.id)
    (hparent : ∀ x, (g x).parent = x.parent) {selection sortList : List ItemId}
    (hselection : Listing (q.items.map g) (·.selected) selection)
    (hsort : Listing (q.items.map g) Item.isSorted sortList) :
    { q.mapItems g with selection, sortList }.Coherent := by
  have hhoused : Housed (q.mapItems g).containers q.itemIndex := h.housed.mapItems hid hparent
  refine ⟨?_, hhoused, h.constants_kind, ?_, ?_, ?_, h.joins, ?_, h.globalWhere⟩
  · exact (Container.map_ids (f := (·.mapItems g)) (fun _ => rfl) q.tables).trans h.mapped
  · intro k' hk'
    obtain ⟨k, hk, rfl⟩ := List.mem_map.mp hk'
    exact h.tables_kind k hk
  · rw [← items_mapItems] at hselection
    exact hselection
  · rw [← items_mapItems] at hsort
    exact hsort
  · -- every table has the items that it had, under their identities
    intro j hj side
    refine holdsEnd_mono h.housed hhoused (fun k hk _ hitem => ?_) (h.ends j hj side)
    refine ⟨k.mapItems g, List.mem_map_of_mem hk, rfl, ?_⟩
    obtain ⟨x, hx, hxid⟩ := List.mem_map.mp hitem
    exact List.mem_map.mpr ⟨g x, List.mem_map_of_mem hx, (hid x).trans hxid⟩

/-! ### Properties -/

/-- Setting a property of an item that is there. -/
theorem setItemProperty_of_mem {β : Type} [DecidableEq β] (h : q.Coherent) {x : Item}
    (hx : x ∈ q.items) (property : Property) (read : Item → β) (write : β → Item → Item)
    (show' : β → PropertyValue) (new : β) :
    setItemProperty x.id property read write show' new q =
      if read x = new then .silent () q
      else .announced () (q.mapItems (Container.onItem x.id (write new)))
        (.itemChanged ⟨x.id, property, show' (read x), show' new⟩) := by
  obtain ⟨k, hk, hxk⟩ := mem_items.mp hx
  rw [setItemProperty, bind_of_silent (h.needItem_of_mem hk hxk)]
  dsimp only
  by_cases hsame : read x = new
  · rw [if_pos hsame, if_pos hsame]
    rfl
  · rw [if_neg hsame, if_neg hsame, modify_bind,
      h.housed.modifyItem_eq hk (List.mem_map_of_mem hxk), announce_apply rfl]

theorem setItemProperty_of_notMem {β : Type} [DecidableEq β] (h : q.Coherent) {id : ItemId}
    (hid : id ∉ q.items.map (·.id)) (property : Property) (read : Item → β)
    (write : β → Item → Item) (show' : β → PropertyValue) (new : β) :
    setItemProperty id property read write show' new q = .refused (.unknownItem id) q := by
  rw [setItemProperty]
  exact bind_of_refused (h.needItem_of_notMem hid)

/-- Writing to one item keeps the invariant, if identity, parent and flags stay. -/
theorem writeItem (h : q.Coherent) (id : ItemId) {f : Item → Item}
    (hf : ∀ x, (f x).id = x.id ∧ (f x).parent = x.parent ∧ (f x).selected = x.selected ∧
      (f x).isSorted = x.isSorted) : (q.mapItems (Container.onItem id f)).Coherent := by
  have hon : ∀ x, Container.onItem id f x = f x ∨ Container.onItem id f x = x := fun x =>
    ite_eq_or_eq _ _ _
  -- what the write leaves alone, writing to one item leaves alone for all
  have hkeep : ∀ {γ : Type} (read : Item → γ), (∀ x, read (f x) = read x) →
      ∀ x, read (Container.onItem id f x) = read x := by
    intro γ read hread x
    rcases hon x with hx | hx
    · rw [hx, hread]
    · rw [hx]
  have hid := hkeep (·.id) fun x => (hf x).1
  exact h.writeItems hid (hkeep (·.parent) fun x => (hf x).2.1)
    (h.selection.map (fun x _ => hid x) fun x _ => hkeep (·.selected) (fun x => (hf x).2.2.1) x)
    (h.sortList.map (fun x _ => hid x) fun x _ => hkeep Item.isSorted (fun x => (hf x).2.2.2) x)

/-- Setting a property that is none of the flags keeps the invariant. -/
theorem setItemProperty {β : Type} [DecidableEq β] (h : q.Coherent) (id : ItemId)
    (property : Property) (read : Item → β) {write : β → Item → Item} (show' : β → PropertyValue)
    (new : β)
    (hwrite : ∀ x, (write new x).id = x.id ∧ (write new x).parent = x.parent ∧
      (write new x).selected = x.selected ∧ (write new x).isSorted = x.isSorted) :
    (setItemProperty id property read write show' new q).query.Coherent := by
  by_cases hid : id ∈ q.items.map (·.id)
  · obtain ⟨x, hx, rfl⟩ := List.mem_map.mp hid
    rw [h.setItemProperty_of_mem hx]
    split
    · exact h
    · -- none of the four fields the invariant reads is written
      exact (h.writeItem x.id hwrite).noted
  · rw [h.setItemProperty_of_notMem hid]
    exact h

/-- Renaming keeps the invariant. -/
theorem renameItem (h : q.Coherent) (id : ItemId) (name : String) :
    (renameItem id name q).query.Coherent := by
  rw [Query.renameItem]
  split
  · rw [bind_of_refused (refuse_apply _ q)]
    exact h
  · exact h.setItemProperty id _ _ _ _ fun _ => ⟨rfl, rfl, rfl, rfl⟩

end Coherent

/-! ### Selecting and sorting -/

/-- The query with an item selected or taken out of the selection. -/
def withSelected (x : Item) (on : Bool) (q : Query) : Query :=
  { q.mapItems (Container.onItem x.id fun x => { x with selected := on }) with
    selection := relist x.id on q.selection
    sortList := relist x.id (on && x.sortOrder.isOrdered) q.sortList }

/-- The query with an item sorted in a direction. -/
def withSortOrder (x : Item) (order : SortOrder) (q : Query) : Query :=
  { q.mapItems (Container.onItem x.id fun x => { x with sortOrder := order }) with
    sortList := relist x.id (x.selected && order.isOrdered) q.sortList }

/-- The query with the items out of the selection whose identities are picked. -/
def deselect (r : ItemId → Bool) (q : Query) : Query :=
  { q.mapItems fun x => { x with selected := x.selected && !r x.id } with
    selection := q.selection.filter (!r ·)
    sortList := q.sortList.filter (!r ·) }

theorem withSelected_false (x : Item) (q : Query) :
    q.withSelected x false = q.deselect (· = x.id) := by
  -- taking one item off a list is a choice among all members, and so is clearing its flag
  have hrest : ∀ ids : List ItemId, relist x.id false ids =
      ids.filter fun y => !decide (y = x.id) := by
    intro ids
    rw [relist, if_neg Bool.false_ne_true]
    exact List.filter_congr fun _ _ => decide_not
  have hitem : ∀ y : Item, Container.onItem x.id (fun x => { x with selected := false }) y =
      { y with selected := y.selected && !decide (y.id = x.id) } := by
    intro y
    rw [Container.onItem]
    by_cases hy : y.id = x.id
    · rw [if_pos hy, decide_eq_true hy, Bool.not_true, Bool.and_false]
    · rw [if_neg hy, decide_eq_false hy, Bool.not_false, Bool.and_true]
  rw [withSelected, deselect, Bool.false_and, hrest, hrest, funext hitem]

/-- Picking no item changes nothing. -/
theorem deselect_nothing (q : Query) : q.deselect (fun _ => false) = q := by
  have hmap : q.mapItems (fun x => { x with selected := x.selected && !false }) = q :=
    mapItems_self fun x _ => by rw [Bool.not_false, Bool.and_true]
  have hfilter : ∀ ids : List ItemId, ids.filter (fun _ => !false) = ids := fun ids =>
    List.filter_eq_self.mpr fun _ _ => rfl
  rw [deselect, hmap, hfilter, hfilter]

/-- Taking items out of the selection in two parts. -/
theorem deselect_deselect (r s : ItemId → Bool) (q : Query) :
    (q.deselect r).deselect s = q.deselect fun id => r id || s id := by
  have hmap : (q.mapItems fun x => { x with selected := x.selected && !r x.id }).mapItems
        (fun x => { x with selected := x.selected && !s x.id }) =
      q.mapItems fun x => { x with selected := x.selected && !(r x.id || s x.id) } := by
    rw [mapItems_mapItems]
    refine mapItems_congr fun x _ => ?_
    rw [Function.comp_apply, Bool.not_or, ← Bool.and_assoc]
  -- the two lists are filtered the same way, so one statement serves both
  have hfilter : ∀ ids : List ItemId,
      (ids.filter (!r ·)).filter (!s ·) = ids.filter fun id => !(r id || s id) := by
    intro ids
    rw [List.filter_filter]
    refine List.filter_congr fun id _ => ?_
    rw [Bool.not_or, Bool.and_comm]
  rw [deselect, deselect, deselect, hfilter, hfilter, ← hmap]
  rfl

namespace Coherent

/-- Selecting an item that is there. -/
theorem setItemSelected_of_mem (h : q.Coherent) {x : Item} (hx : x ∈ q.items) (on : Bool) :
    setItemSelected x.id on q =
      if x.selected = on then .silent () q
      else .announced () (q.withSelected x on)
        (.itemChanged ⟨x.id, .selected, .bool !on, .bool on⟩) := by
  obtain ⟨k, hk, hxk⟩ := mem_items.mp hx
  rw [setItemSelected, bind_of_silent (h.needItem_of_mem hk hxk)]
  dsimp only
  by_cases hsame : x.selected = on
  · rw [if_pos hsame, if_pos hsame]
    rfl
  · rw [if_neg hsame, if_neg hsame, modify_bind, modify_bind,
      h.housed.modifyItem_eq hk (List.mem_map_of_mem hxk), announce_apply rfl]
    cases on with
    | false => rfl
    | true =>
      -- an item that is not selected is on neither list
      have hselection : x.id ∉ q.selection := fun hmem => hsame ((h.mem_selection hx).mp hmem)
      have hsort : x.id ∉ q.sortList := by
        rw [h.mem_sortList hx, Item.isSorted, (Bool.not_eq_true _).mp hsame]
        exact Bool.false_ne_true
      rw [withSelected, relist_of_notMem hselection, relist_of_notMem hsort]
      rfl

theorem setItemSelected_of_notMem (h : q.Coherent) {id : ItemId} (hid : id ∉ q.items.map (·.id))
    (on : Bool) : setItemSelected id on q = .refused (.unknownItem id) q := by
  rw [setItemSelected]
  exact bind_of_refused (h.needItem_of_notMem hid)

/-- Selecting an item keeps the invariant. -/
theorem withSelected (h : q.Coherent) {x : Item} (hx : x ∈ q.items) (on : Bool) :
    (q.withSelected x on).Coherent :=
  h.writeItems (fun _ => by rw [Container.onItem]; split <;> rfl)
    (fun _ => by rw [Container.onItem]; split <;> rfl)
    (h.selection.write h.itemIds_nodup hx rfl) (h.sortList.write h.itemIds_nodup hx rfl)

/-- Taking items out of the selection keeps the invariant. -/
theorem deselect (h : q.Coherent) (r : ItemId → Bool) : (q.deselect r).Coherent :=
  h.writeItems (g := fun x => { x with selected := x.selected && !r x.id }) (fun _ => rfl)
    (fun _ => rfl) (h.selection.clear r (fun _ => rfl) fun _ => rfl)
    (h.sortList.clear r (fun _ => rfl) fun _ => Bool.and_right_comm _ _ _)

/-- Only the selected items that are picked matter. -/
theorem deselect_congr (h : q.Coherent) {r s : ItemId → Bool}
    (hrs : ∀ x ∈ q.items, x.selected = true → r x.id = s x.id) : q.deselect r = q.deselect s := by
  have hmap : q.mapItems (fun x => { x with selected := x.selected && !r x.id }) =
      q.mapItems fun x => { x with selected := x.selected && !s x.id } := by
    refine mapItems_congr fun x hx => ?_
    cases hselected : x.selected with
    | false => rfl
    | true => rw [hrs x hx hselected]
  -- whatever is on one of the lists is selected
  have hfilter : ∀ {flag : Item → Bool} {ids : List ItemId}, Listing q.items flag ids →
      (∀ x, flag x = true → x.selected = true) → ids.filter (!r ·) = ids.filter (!s ·) := by
    intro flag ids hids hflag
    refine List.filter_congr fun id hid => ?_
    obtain ⟨x, hx, rfl, hx'⟩ := (hids.mem_iff id).mp hid
    rw [hrs x hx (hflag x hx')]
  rw [Query.deselect, Query.deselect, hmap, hfilter h.selection fun _ hx => hx,
    hfilter h.sortList fun _ hx => (Bool.and_eq_true _ _ ▸ hx).1]

/-- Taking an item out of the selection that is there. -/
theorem deselectItem (h : q.Coherent) {x : Item} (hx : x ∈ q.items) :
    Reaches (setItemSelected x.id false) q () ((q.deselect (· = x.id)).notedIf x.selected) := by
  rw [Reaches, h.setItemSelected_of_mem hx]
  cases hselected : x.selected with
  | true => exact ⟨rfl, congrArg Query.noted (withSelected_false x q)⟩
  | false =>
    -- nobody else has the identity, so no selected item is picked
    have hsame : q.deselect (· = x.id) = q.deselect fun _ => false :=
      h.deselect_congr fun y hy hselected' => decide_eq_false fun hyx => by
        rw [h.housed.eq_of_itemId hy hx hyx, hselected] at hselected'
        exact Bool.false_ne_true hselected'
    rw [if_pos rfl, hsame, deselect_nothing, notedIf_false]
    exact ⟨rfl, rfl⟩

theorem setItemSelected (h : q.Coherent) (id : ItemId) (on : Bool) :
    (setItemSelected id on q).query.Coherent := by
  by_cases hid : id ∈ q.items.map (·.id)
  · obtain ⟨x, hx, rfl⟩ := List.mem_map.mp hid
    rw [h.setItemSelected_of_mem hx]
    split
    · exact h
    · exact (h.withSelected hx on).noted
  · rw [h.setItemSelected_of_notMem hid]
    exact h

/-- Sorting an item that is there. -/
theorem setSortOrder_of_mem (h : q.Coherent) {x : Item} (hx : x ∈ q.items) (order : SortOrder) :
    setSortOrder x.id order q =
      if x.sortOrder = order then .silent () q
      else .announced () (q.withSortOrder x order)
        (.itemChanged ⟨x.id, .sortOrder, .sort x.sortOrder, .sort order⟩) := by
  obtain ⟨k, hk, hxk⟩ := mem_items.mp hx
  rw [setSortOrder, bind_of_silent (h.needItem_of_mem hk hxk)]
  dsimp only
  by_cases hsame : x.sortOrder = order
  · rw [if_pos hsame, if_pos hsame]
    rfl
  · rw [if_neg hsame, if_neg hsame, modify_bind,
      h.housed.modifyItem_eq hk (List.mem_map_of_mem hxk)]
    cases hselected : x.selected with
    | true =>
      rw [if_pos rfl, modify_bind, announce_apply rfl, Query.withSortOrder, hselected]
      rfl
    | false =>
      -- an item that is not selected is no sort key before or after
      have hsort : x.id ∉ q.sortList := by
        rw [h.mem_sortList hx, Item.isSorted, hselected]
        exact Bool.false_ne_true
      rw [if_neg Bool.false_ne_true, announce_apply rfl, Query.withSortOrder, hselected,
        Bool.false_and, relist_of_notMem hsort]
      rfl

theorem setSortOrder_of_notMem (h : q.Coherent) {id : ItemId} (hid : id ∉ q.items.map (·.id))
    (order : SortOrder) : setSortOrder id order q = .refused (.unknownItem id) q := by
  rw [setSortOrder]
  exact bind_of_refused (h.needItem_of_notMem hid)

/-- Sorting an item keeps the invariant. -/
theorem withSortOrder (h : q.Coherent) {x : Item} (hx : x ∈ q.items) (order : SortOrder) :
    (q.withSortOrder x order).Coherent := by
  -- the direction is the only thing that is written
  have hkeep : ∀ {γ : Type} (read : Item → γ),
      (∀ y, read { y with sortOrder := order } = read y) →
      ∀ y, read (Container.onItem x.id (fun y => { y with sortOrder := order }) y) = read y := by
    intro γ read hread y
    rw [Container.onItem]
    split
    · exact hread y
    · rfl
  exact h.writeItems (hkeep (·.id) fun _ => rfl) (hkeep (·.parent) fun _ => rfl)
    (h.selection.map (fun y _ => hkeep (·.id) (fun _ => rfl) y) fun y _ =>
      hkeep (·.selected) (fun _ => rfl) y)
    (h.sortList.write h.itemIds_nodup hx rfl)

theorem setSortOrder (h : q.Coherent) (id : ItemId) (order : SortOrder) :
    (setSortOrder id order q).query.Coherent := by
  by_cases hid : id ∈ q.items.map (·.id)
  · obtain ⟨x, hx, rfl⟩ := List.mem_map.mp hid
    rw [h.setSortOrder_of_mem hx]
    split
    · exact h
    · exact (h.withSortOrder hx order).noted
  · rw [h.setSortOrder_of_notMem hid]
    exact h

end Coherent

/-- The query with an item moved to a place in the selection. -/
def withMoved (id : ItemId) (index : Nat) (q : Query) : Query :=
  { q with selection :=
      (q.selection.erase id).insertIdx (min index (q.selection.erase id).length) id }

theorem moveSelectedItem_of_mem {id : ItemId} (hid : id ∈ q.selection) (index : Nat) :
    moveSelectedItem id index q = .announced () (q.withMoved id index)
      (.itemOrderChanged id (min index (q.selection.erase id).length)) := by
  rw [moveSelectedItem, get_bind]
  -- the place that is looked up is the one from which the first occurrence is erased
  have herase := List.erase_eq_eraseIdx q.selection id
  cases hi : q.selection.idxOf? id with
  | none => exact absurd hid (List.idxOf?_eq_none_iff.mp hi)
  | some i =>
    rw [hi] at herase
    dsimp only at herase ⊢
    rw [modify_bind, announce_apply rfl, withMoved, herase]

theorem moveSelectedItem_of_notMem {id : ItemId} (hid : id ∉ q.selection) (index : Nat) :
    moveSelectedItem id index q = .refused (.invalidArgument (.itemNotSelected id)) q := by
  rw [moveSelectedItem, get_bind, List.idxOf?_eq_none_iff.mpr hid]
  rfl

/-- Moving an item in the selection keeps the invariant. -/
theorem Coherent.moveSelectedItem (h : q.Coherent) (id : ItemId) (index : Nat) :
    (moveSelectedItem id index q).query.Coherent := by
  by_cases hid : id ∈ q.selection
  · -- the selection lists the same items in another order
    rw [moveSelectedItem_of_mem hid]
    have hperm : q.selection.Perm (q.withMoved id index).selection :=
      (List.perm_cons_erase hid).trans (List.perm_insertIdx _ _ (Nat.min_le_right _ _)).symm
    refine Coherent.noted ?_
    exact ⟨h.mapped, h.housed, h.constants_kind, h.tables_kind, h.selection.perm hperm, h.sortList,
      h.joins, h.ends, h.globalWhere⟩
  · rw [moveSelectedItem_of_notMem hid]
    exact h

end VisualQuery.Query
