import VisualQuery.Document
import VisualQuery.Proofs.Query.UniqueItems

/-!
# Adding and removing undo each other

A removal takes out what an addition has put in: it restores the document, the index of the items
and the registry of the joins, entry by entry and in order (`Query.state`). What an addition does is
spread over several lists, and the removal filters each of them by identities that were new. So the
filters take out what was added and nothing else, since by the invariant nothing else had these
identities: no list named them, the index did not list them, and no join was at them.

The index of the joins needs more care. A container that has no joins is not in it, so taking the
last join off a container takes the container out again (`Adjacency.detach_attach`), and a join is
taken off one of its containers while it is still listed under the other one
(`Adjacency.detach_attach_of_ne`).
-/

namespace VisualQuery

/-! ### Filters that take out what is new -/

theorem filter_append_new {α : Type} {p : α → Bool} {l added : List α}
    (hl : ∀ a ∈ l, p a = true) (hadded : ∀ a ∈ added, p a = false) : (l ++ added).filter p = l := by
  have hnone : added.filter p = [] := by
    rw [List.filter_eq_nil_iff]
    intro a ha
    rw [hadded a ha]
    exact Bool.false_ne_true
  rw [List.filter_append, List.filter_eq_self.mpr hl, hnone, List.append_nil]

theorem filter_append_ne {α β : Type} [DecidableEq β] {f : α → β} {b : β} {l added : List α}
    (hl : ∀ a ∈ l, f a ≠ b) (hadded : ∀ a ∈ added, f a = b) :
    (l ++ added).filter (f · ≠ b) = l :=
  filter_append_new (fun a ha => decide_eq_true (hl a ha))
    fun a ha => decide_eq_false (not_not.mpr (hadded a ha))

theorem filter_insertIdx {α : Type} {p : α → Bool} {a : α} (ha : p a = false) (i : Nat)
    (l : List α) : (l.insertIdx i a).filter p = l.filter p := by
  induction l generalizing i with
  | nil => cases i <;> simp [ha]
  | cons b rest ih =>
    cases i with
    | zero => rw [List.insertIdx_zero, List.filter_cons, ha, if_neg Bool.false_ne_true]
    | succ i => rw [List.insertIdx_succ_cons, List.filter_cons, List.filter_cons, ih]

/-! ### The index of the joins -/

namespace Adjacency

variable {index : Adjacency} {id : JoinId} {c d : ContainerId}

/-- Taking a new join off the container that it was listed under. No container is in the index
without joins. -/
theorem detach_attach (hid : id ∉ index.ids c) (hne : index.lookup c ≠ some []) :
    (index.attach id c).detach id c = index := by
  induction index with
  | nil => simp [attach, detach]
  | cons entry rest ih =>
    obtain ⟨e, ids⟩ := entry
    rw [attach]
    by_cases hec : e = c
    · -- the entry is the container's own: it gains the join and loses it, and stays as it was not
      -- empty before
      subst hec
      rw [Adjacency.ids, List.lookup_cons_self, Option.getD_some] at hid
      rw [List.lookup_cons_self] at hne
      have hrest : (ids ++ [id]).filter (· ≠ id) = ids :=
        filter_append_ne (f := fun x => x) (fun x hx heq => hid (heq ▸ hx))
          fun x hx => List.mem_singleton.mp hx
      rw [if_pos rfl, detach, if_pos rfl, hrest]
      cases ids with
      | nil => exact absurd rfl hne
      | cons x ids => rfl
    · -- another container's entry is not touched on the way
      rw [Adjacency.ids, Keyed.lookup_cons_of_ne (Ne.symm hec)] at hid
      rw [Keyed.lookup_cons_of_ne (Ne.symm hec)] at hne
      rw [if_neg hec, detach, if_neg hec, ih hid hne]

/-- Lists of different containers are changed in either order. -/
theorem detach_attach_of_ne (hcd : c ≠ d) (index : Adjacency) (id id' : JoinId) :
    (index.attach id d).detach id' c = (index.detach id' c).attach id d := by
  induction index with
  | nil => simp [attach, detach, hcd.symm]
  | cons entry rest ih =>
    obtain ⟨e, ids⟩ := entry
    -- the two entries are different ones, so whichever comes first is left alone by the other
    by_cases hed : e = d
    · have hec : e ≠ c := fun hec => hcd (hec.symm.trans hed)
      rw [attach, if_pos hed, detach, if_neg hec, detach, if_neg hec, attach, if_pos hed]
    · rw [attach, if_neg hed, detach, detach]
      split
      · split
        · rfl
        · rw [attach, if_neg hed]
      · rw [ih, attach, if_neg hed]

end Adjacency

namespace JoinRegistry

variable {r : JoinRegistry} {j : Join}

/-- **A join as it is registered**: an end at a container that has joins takes over its flag, and
nothing else is changed. -/
structure IsForced (r : JoinRegistry) (j k : Join) : Prop where
  /-- It has the identity of the join. -/
  id : k.id = j.id
  /-- It has its comparator. -/
  comparator : k.comparator = j.comparator
  /-- It has its name. -/
  name : k.name = j.name
  /-- It leads from and to the same containers. -/
  container : ∀ side, (k.atSide side).container = (j.atSide side).container
  /-- It leads from and to the same items. -/
  item : ∀ side, (k.atSide side).item = (j.atSide side).item
  /-- At a container that has joins it takes over their flag. -/
  shared : ∀ side, ∀ i ∈ r.joins, ∀ t, (i.atSide t).container = (j.atSide side).container →
    (k.atSide side).outer = (i.atSide t).outer
  /-- At a container without joins it keeps its own flag. -/
  own : ∀ side, (∀ i ∈ r.joins, i.touches (j.atSide side).container = false) →
    (k.atSide side).outer = (j.atSide side).outer

theorem Coherent.isForced (h : r.Coherent) (j : Join) : IsForced r j (r.forced j) where
  id := rfl
  comparator := rfl
  name := rfl
  container := forced_container r j
  item := Join.forced_item r j
  shared side i hi t hit := by
    rw [forced_outer, ← hit, h.flagAt_eq hi t, Option.getD_some]
  own side hnone := by
    rw [forced_outer, flagAt_eq_none hnone, Option.getD_none]

/-- **Taking out the join that was registered last** restores the registry. -/
theorem Coherent.without_extend (h : r.Coherent) (hid : j.id ∉ r.ids)
    (hc : j.left.container ≠ j.right.container) : (r.extend j).without (r.forced j) = r := by
  have hjoins : (r.joins ++ [r.forced j]).filter (·.id ≠ j.id) = r.joins :=
    filter_append_ne (f := Join.id) (fun k hk heq => hid (h.mem_ids.mpr ⟨k, hk, heq⟩))
      fun k hk => List.mem_singleton.mp hk ▸ rfl
  have hids : (r.ids ++ [j.id]).filter (· ≠ j.id) = r.ids :=
    filter_append_ne (f := fun id => id) (fun id hmem heq => hid (heq ▸ hmem))
      fun id hmem => List.mem_singleton.mp hmem
  -- a container lists registered joins only, and some of them
  have hlisted : ∀ c, j.id ∉ r.adjacency.ids c ∧ r.adjacency.lookup c ≠ some [] := by
    intro c
    constructor
    · intro hmem
      have hidsAt := h.idsAt_eq c
      rw [idsAt] at hidsAt
      rw [hidsAt] at hmem
      obtain ⟨k, hk, hkj⟩ := List.mem_map.mp hmem
      exact hid (h.mem_ids.mpr ⟨k, List.mem_of_mem_filter hk, hkj⟩)
    · rw [h.listed]
      cases ((r.joins.filter (·.touches c)).map (·.id)) <;> simp [Adjacency.kept]
  have hadjacency : (((r.adjacency.attach j.id j.left.container).attach j.id
      j.right.container).detach j.id j.left.container).detach j.id j.right.container =
      r.adjacency := by
    rw [Adjacency.detach_attach_of_ne hc,
      Adjacency.detach_attach (hlisted j.left.container).1 (hlisted j.left.container).2,
      Adjacency.detach_attach (hlisted j.right.container).1 (hlisted j.right.container).2]
  show (⟨(r.joins ++ [r.forced j]).filter (·.id ≠ j.id), (r.ids ++ [j.id]).filter (· ≠ j.id), _⟩ :
    JoinRegistry) = r
  rw [hjoins, hids]
  exact congrArg (JoinRegistry.mk r.joins r.ids) hadjacency

/-- Where no join is at an item, nothing is taken out for it. -/
theorem Coherent.removeAll_idsOfItem (h : r.Coherent) {x : ItemId}
    (hx : ∀ j ∈ r.joins, j.references x = false) :
    (r.removeAll (r.idsOfItem x)).2 = r := by
  have hnone : r.joins.filter (·.references x) = [] := by
    rw [List.filter_eq_nil_iff]
    intro j hj
    rw [hx j hj]
    exact Bool.false_ne_true
  rw [idsOfItem, h.inOrder_eq, hnone]
  rfl

/-- Where no join is at a container, nothing is taken out for it. -/
theorem Coherent.removeContainer_of_none (h : r.Coherent) {c : ContainerId}
    (hc : ∀ j ∈ r.joins, Join.touches j c = false) : (r.removeContainer c).2 = r := by
  have hnone : r.joins.filter (·.touches c) = [] := by
    rw [List.filter_eq_nil_iff]
    intro j hj
    rw [hc j hj]
    exact Bool.false_ne_true
  rw [removeContainer, h.idsAt_eq, hnone]
  rfl

end JoinRegistry

/-! ### The index of the items -/

namespace ItemIndex

/-- Entries that a filter takes out may be set before. -/
theorem filter_set {p : ItemId → Bool} {x : ItemId} (hx : p x = false) (c : ContainerId)
    (index : ItemIndex) : (index.set x c).filter (p ·.1) = index.filter (p ·.1) := by
  induction index with
  | nil => simp [set, hx]
  | cons entry rest ih =>
    obtain ⟨y, d⟩ := entry
    rw [set]
    split
    · next hyx =>
      subst hyx
      simp [hx]
    · rw [List.filter_cons, List.filter_cons, ih]

theorem filter_enter {p : ItemId → Bool} (index : ItemIndex) {c : Container}
    (hc : ∀ x ∈ c.items, p x.id = false) :
    (index.enter c).filter (p ·.1) = index.filter (p ·.1) := by
  have hfold : ∀ (items : List Item) (index : ItemIndex), (∀ x ∈ items, p x.id = false) →
      (items.foldl (fun index x => index.set x.id c.id) index).filter (p ·.1) =
        index.filter (p ·.1) := by
    intro items
    induction items with
    | nil => exact fun _ _ => rfl
    | cons x rest ih =>
      intro index hitems
      obtain ⟨hx, hrest⟩ := List.forall_mem_cons.mp hitems
      rw [List.foldl_cons, ih _ hrest, filter_set hx]
  exact hfold c.items index hc

/-- Taking items off the index keeps the entries of the others. -/
theorem foldl_erase (items : List Item) (index : ItemIndex) :
    items.foldl (fun index x => index.erase x.id) index =
      index.filter fun entry => decide (entry.1 ∉ items.map (·.id)) := by
  induction items generalizing index with
  | nil => simp
  | cons x rest ih =>
    rw [List.foldl_cons, ih, erase, List.filter_filter]
    refine List.filter_congr fun entry _ => ?_
    rw [List.map_cons, ← Bool.decide_and, decide_eq_decide, List.mem_cons, not_or, and_comm]

/-- A filter that takes out items which are not listed takes out nothing. -/
theorem filter_of_unlisted {index : ItemIndex} {p : ItemId → Bool}
    (hp : ∀ x, p x = false → index.get? x = none) : index.filter (p ·.1) = index := by
  refine List.filter_eq_self.mpr fun entry hentry => ?_
  rw [← Bool.not_eq_false]
  intro hx
  exact Keyed.lookup_eq_none_iff.mp (hp _ hx) (List.mem_map_of_mem hentry)

end ItemIndex

namespace Query

open Change

variable {q : Query}

/-! ### The state -/

/-- What is restored: the document and the two indexes. -/
structure State where
  /-- The document. -/
  document : Document
  /-- For each item the container that holds it. -/
  itemIndex : ItemIndex
  /-- The joins with their index. -/
  joins : JoinRegistry

/-- The document and the two indexes of a query. -/
def state (q : Query) : State := ⟨Document.ofQuery q, q.itemIndex, q.joins⟩

/-- **The second change takes the first one back.** Whenever the first one succeeds, the second one
does, with the given value, and the state is as before. -/
def TakesBack {α β : Type} (q : Query) (m : Change α) (m' : Change β) (b : β) : Prop :=
  ∀ a, (m q).result = .ok a →
    (m' (m q).query).result = .ok b ∧ (m' (m q).query).query.state = q.state

@[simp] theorem state_noted (q : Query) : q.noted.state = q.state := rfl

@[simp] theorem state_closed (q : Query) : q.closed.state = q.state := by
  rw [closed]
  split <;> rfl

theorem withoutItem_noted (id : ItemId) (q : Query) :
    q.noted.withoutItem id = (q.withoutItem id).noted := rfl

theorem withoutTable_noted (k : Container) (q : Query) :
    q.noted.withoutTable k = (q.withoutTable k).noted := rfl

/-- What a removal leaves does not depend on the compound edit that it is made in. -/
theorem state_withoutItem_opened (id : ItemId) (message : String) (q : Query) :
    ((q.opened message).withoutItem id).state = (q.withoutItem id).state := by
  rw [opened]
  split <;> rfl

theorem state_withoutTable_opened (k : Container) (message : String) (q : Query) :
    ((q.opened message).withoutTable k).state = (q.withoutTable k).state := by
  rw [opened]
  split <;> rfl

namespace Coherent

/-! ### Items -/

/-- No join is at an item that the query does not have. -/
theorem references_eq_false (h : q.Coherent) {id : ItemId} (hid : id ∉ q.items.map (·.id))
    {j : Join} (hj : j ∈ q.joins.joins) : j.references id = false := by
  have hend : ∀ side, (j.atSide side).item ≠ id := by
    intro side heq
    obtain ⟨x, hx, hxid, -⟩ := h.item?_end hj side
    exact hid (heq ▸ hxid ▸ List.mem_map_of_mem hx)
  rw [Join.references, Bool.or_eq_false_iff, decide_eq_false_iff_not, decide_eq_false_iff_not]
  exact ⟨hend .left, hend .right⟩

/-- **A new item is taken out again** and leaves nothing behind. -/
theorem withoutItem_withItem (h : q.Coherent) {x : Item} (hx : x.id ∉ q.items.map (·.id))
    (k : Container) (index : Nat) : (q.withItem k index x).withoutItem x.id = q := by
  have hcontainer : ∀ k' ∈ q.containers,
      (if k'.id = k.id then k'.insert index x else k').filterItems (·.id ≠ x.id) = k' := by
    intro k' hk'
    have hkept : k'.filterItems (·.id ≠ x.id) = k' := by
      refine Container.filterItems_eq_self fun y hy => decide_eq_true fun heq => hx ?_
      exact heq ▸ mem_itemIds.mpr ⟨k', hk', List.mem_map_of_mem hy⟩
    split
    · refine Eq.trans (congrArg (fun items => { k' with items }) ?_) hkept
      exact filter_insertIdx (by simp) _ k'.items
    · exact hkept
  have htables : (q.tables.map fun k' => if k'.id = k.id then k'.insert index x else k').map
      (·.filterItems (·.id ≠ x.id)) = q.tables := by
    rw [List.map_map]
    refine (List.map_congr_left fun k' hk' => ?_).trans (List.map_id _)
    exact hcontainer k' (List.mem_cons_of_mem _ hk')
  have hindex : (q.itemIndex.set x.id k.id).erase x.id = q.itemIndex := by
    have hp : decide (x.id ≠ x.id) = false := by simp
    refine (ItemIndex.filter_set (p := fun y => y ≠ x.id) hp k.id q.itemIndex).trans ?_
    refine ItemIndex.filter_of_unlisted (p := fun y => y ≠ x.id) fun y hy => ?_
    rw [of_not_not (of_decide_eq_false hy)]
    exact h.get?_itemIndex_eq_none hx
  -- the item is on no list but by its own doing
  have hlist : ∀ {ids : List ItemId} (on : Bool), (∀ id ∈ ids, id ∈ q.items.map (·.id)) →
      (ids ++ if on = true then [x.id] else []).filter (· ≠ x.id) = ids := by
    intro ids on hids
    refine filter_append_ne (f := fun id => id) (fun id hid heq => hx (heq ▸ hids id hid)) ?_
    intro id hid
    split at hid
    · exact List.mem_singleton.mp hid
    · exact absurd hid List.not_mem_nil
  have hjoins : (q.joins.removeAll (q.joins.idsOfItem x.id)).2 = q.joins :=
    h.joins.removeAll_idsOfItem fun j hj => h.references_eq_false hx hj
  rw [Query.withItem, enlist_eq, Query.withoutItem, filterItems, mapContainers, mapContainers]
  dsimp only
  rw [hcontainer q.constants List.mem_cons_self, htables, hindex,
    hlist _ fun _ => h.selection.mem_ids, hlist _ fun _ => h.sortList.mem_ids, hjoins]

/-! ### Tables -/

/-- No join is at a container that is not a table. -/
theorem touches_eq_false (h : q.Coherent) {c : ContainerId} (hc : c ∉ q.tableIds) {j : Join}
    (hj : j ∈ q.joins.joins) : j.touches c = false := by
  rw [← Bool.not_eq_true, Join.touches_iff]
  rintro (heq | heq)
  · exact hc (heq ▸ h.end_mem_tableIds hj .left)
  · exact hc (heq ▸ h.end_mem_tableIds hj .right)

/-- **A new table is taken out again** and leaves nothing behind. -/
theorem withoutTable_withTable (h : q.Coherent) {c : Container} (hc : c.id ∉ q.tableIds)
    (hitems : ∀ x ∈ c.items, x.id ∉ q.items.map (·.id)) :
    (q.withTable c).withoutTable c.adopt = q := by
  have htables : (q.tables ++ [c.adopt]).filter (·.id ≠ c.id) = q.tables :=
    filter_append_ne (f := Container.id) (fun k hk heq => hc (h.mem_tableIds.mpr ⟨k, hk, heq⟩))
      fun k hk => List.mem_singleton.mp hk ▸ rfl
  have htableIds : (q.tableIds ++ [c.id]).filter (· ≠ c.id) = q.tableIds :=
    filter_append_ne (f := fun id => id) (fun id hmem heq => hc (heq ▸ hmem))
      fun id hmem => List.mem_singleton.mp hmem
  -- no identifier of the query is one of the new table's, so filtering those out keeps it
  have hnew : ∀ id ∈ q.items.map (·.id), decide (id ∉ c.items.map (·.id)) = true := by
    intro id hid
    refine decide_eq_true fun hmem => ?_
    obtain ⟨x, hx, rfl⟩ := List.mem_map.mp hmem
    exact hitems x hx hid
  have hindex : (q.itemIndex.enter c).filter (fun entry => decide (entry.1 ∉ c.items.map (·.id))) =
      q.itemIndex := by
    refine (ItemIndex.filter_enter (p := fun y => y ∉ c.items.map (·.id)) q.itemIndex
      fun x hx => ?_).trans ?_
    · exact decide_eq_false (not_not.mpr (List.mem_map_of_mem hx))
    · refine ItemIndex.filter_of_unlisted (p := fun y => y ∉ c.items.map (·.id)) fun y hy => ?_
      refine h.get?_itemIndex_eq_none fun hmem => ?_
      rw [hnew y hmem] at hy
      exact absurd hy (by simp)
  -- selection and sort list end with the new table's own entries, and only those go
  have hlist : ∀ {ids : List ItemId} (flag : Item → Bool), (∀ id ∈ ids, id ∈ q.items.map (·.id)) →
      (ids ++ (c.items.filter flag).map (·.id)).filter (· ∉ c.items.map (·.id)) = ids := by
    intro ids flag hids
    refine filter_append_new (fun id hid => hnew id (hids id hid)) fun id hid => ?_
    obtain ⟨x, hx, rfl⟩ := List.mem_map.mp hid
    exact decide_eq_false (not_not.mpr (List.mem_map_of_mem (List.mem_of_mem_filter hx)))
  -- no join can touch a table that was not there
  have hjoins : (q.joins.removeContainer c.id).2 = q.joins :=
    h.joins.removeContainer_of_none fun j hj => h.touches_eq_false hc hj
  rw [Query.withTable, foldl_enlist, Query.withoutTable, ItemIndex.foldl_erase, c.adopt_ids]
  dsimp only
  rw [hindex, hlist _ fun _ => h.selection.mem_ids,
    hlist _ fun _ => h.sortList.mem_ids]
  change { q with tables := _, tableIds := _, joins := (q.joins.removeContainer c.id).2 } = q
  rw [hjoins]
  change { q with
    tables := (q.tables ++ [c.adopt]).filter (·.id ≠ c.id)
    tableIds := (q.tableIds ++ [c.id]).filter (· ≠ c.id) } = q
  rw [htables, htableIds]

/-! ### The selection -/

/-- **An item that was not selected is taken out of the selection again.** -/
theorem withSelected_withSelected (h : q.Coherent) {x : Item} (hx : x ∈ q.items)
    (hselected : x.selected = false) :
    (q.withSelected x true).withSelected { x with selected := true } false = q := by
  have hitems : ∀ y ∈ q.items, Container.onItem x.id (fun y => { y with selected := false })
      (Container.onItem x.id (fun y => { y with selected := true }) y) = y := by
    intro y hy
    rw [Container.onItem, Container.onItem]
    by_cases hyx : y.id = x.id
    · -- it is the item itself
      rw [if_pos hyx, if_pos hyx, h.housed.eq_of_itemId hy hx hyx, ← hselected]
    · rw [if_neg hyx, if_neg hyx]
  have hmap : (q.mapItems (Container.onItem x.id fun y => { y with selected := true })).mapItems
      (Container.onItem x.id fun y => { y with selected := false }) = q := by
    rw [mapItems_mapItems]
    exact mapItems_self hitems
  have hlist : ∀ {ids : List ItemId} (on : Bool), x.id ∉ ids →
      relist x.id false (relist x.id on ids) = ids := by
    intro ids on hid
    rw [relist_of_notMem hid, relist, if_neg Bool.false_ne_true]
    cases on with
    | false =>
      exact List.filter_eq_self.mpr fun id hmem => decide_eq_true fun heq => hid (heq ▸ hmem)
    | true =>
      exact filter_append_ne (f := fun id => id) (fun id hmem heq => hid (heq ▸ hmem))
        fun id hmem => List.mem_singleton.mp hmem
  have hselection : x.id ∉ q.selection := by
    rw [h.mem_selection hx, hselected]
    exact Bool.false_ne_true
  have hsort : x.id ∉ q.sortList := by
    rw [h.mem_sortList hx, Item.isSorted, hselected]
    exact Bool.false_ne_true
  change { (q.mapItems (Container.onItem x.id fun y => { y with selected := true })).mapItems
      (Container.onItem x.id fun y => { y with selected := false }) with
    selection := relist x.id false (relist x.id true q.selection)
    sortList := relist x.id false (relist x.id (true && x.sortOrder.isOrdered) q.sortList) } = q
  rw [hmap, hlist _ hselection, hlist _ hsort]

/-! ### The changes -/

theorem addTable_removeTable (h : q.Coherent) {c : Container} (hnd : (c.items.map (·.id)).Nodup) :
    TakesBack q (Query.addTable c) (Query.removeTable c.id)
      (c.adopt.mapItems fun x => { x with selected := false }) := by
  intro id hok
  obtain ⟨hkind, hc, hitems, hquery⟩ := h.addTable_of_ok hok
  -- the table is found again under its identifier, its items with it as parent
  have hmem : c.adopt ∈ (q.withTable c).noted.tables := by
    rw [Query.withTable, foldl_enlist]
    exact List.mem_append_right _ List.mem_cons_self
  have hreach := (h.withTable hkind hc hitems hnd).noted.removeTable_of_mem hmem
  rw [hquery]
  refine ⟨hreach.1, ?_⟩
  rw [show c.id = c.adopt.id from rfl, hreach.2, state_closed, state_noted,
    state_withoutTable_opened, withoutTable_noted, state_noted,
    h.withoutTable_withTable (h.notMem_tableIds hc) hitems]

theorem insertItem_removeItem (h : q.Coherent) (c : ContainerId) (index : Nat) (x : Item) :
    TakesBack q (Query.insertItem c index x) (Query.removeItem x.id)
      { x with selected := false, parent := none } := by
  intro id hok
  by_cases hx : x.id ∈ q.items.map (·.id)
  · rw [h.insertItem_of_mem hx] at hok
    cases hok
  · cases hc : q.container? c with
    | none =>
      rw [h.insertItem_of_unknown hx hc] at hok
      cases hok
    | some k =>
      obtain ⟨hk, rfl⟩ := h.housed.container?_iff.mp hc
      -- the item is found again under its identifier, now with its owner as parent
      have hmem : { x with parent := some k.id } ∈ (q.withItem k index x).noted.items := by
        rw [Query.withItem, enlist_eq]
        exact (h.housed.items_insert_perm hk index x).mem_iff.mpr List.mem_cons_self
      have hreach := (h.withItem hk hx index).noted.removeItem_of_mem hmem
      rw [h.insertItem_of_mem_containers hk hx]
      refine ⟨hreach.1, ?_⟩
      change (Query.removeItem x.id (q.withItem k index x).noted).query.state = q.state
      rw [hreach.2, state_closed, state_noted, state_withoutItem_opened, withoutItem_noted,
        state_noted, h.withoutItem_withItem hx]

/-- A join that is added is new and leads to another container, and it is registered last. -/
theorem addJoin_of_ok (h : q.Coherent) {j : Join} {id : JoinId}
    (hok : (Query.addJoin j q).result = .ok id) :
    j.id ∉ q.joins.ids ∧ j.left.container ≠ j.right.container ∧
      (Query.addJoin j q).query = { q with joins := q.joins.extend j }.noted := by
  have hadd := h.joins.add_eq j
  rw [addJoin_apply] at hok ⊢
  -- each of the four checks would have ended the edit
  cases hl : q.endError? j.id j.left with
  | some cause =>
    rw [hl] at hok
    cases hok
  | none =>
    cases hr : q.endError? j.id j.right with
    | some cause =>
      rw [hl, hr] at hok
      cases hok
    | none =>
      rw [hl, hr] at hok
      by_cases hid : j.id ∈ q.joins.ids
      · rw [hadd, if_pos hid] at hok
        cases hok
      · by_cases hc : j.left.container = j.right.container
        · rw [hadd, if_neg hid, if_pos hc] at hok
          cases hok
        · rw [hadd, if_neg hid, if_neg hc]
          exact ⟨hid, hc, rfl⟩

/-- It is registered as it is forced. -/
theorem get?_of_addJoin (h : q.Coherent) {j : Join} {id : JoinId}
    (hok : (Query.addJoin j q).result = .ok id) :
    (Query.addJoin j q).query.joins.get? j.id = some (q.joins.forced j) := by
  have hcoherent := h.addJoin j
  rw [(h.addJoin_of_ok hok).2.2] at hcoherent ⊢
  exact hcoherent.joins.get?_id (j := q.joins.forced j) (List.mem_append_right _ List.mem_cons_self)

theorem addJoin_removeJoin (h : q.Coherent) (j : Join) :
    TakesBack q (Query.addJoin j) (Query.removeJoin j.id) (q.joins.forced j) := by
  intro id hok
  have hget := h.get?_of_addJoin hok
  obtain ⟨hid, hc, hquery⟩ := h.addJoin_of_ok hok
  rw [hquery] at hget ⊢
  have hremove := removeJoin_of_get? (q := { q with joins := q.joins.extend j }.noted) hget
  refine ⟨congrArg Outcome.result hremove, (congrArg (fun o => o.query.state) hremove).trans ?_⟩
  change { q with joins := (q.joins.extend j).without (q.joins.forced j) }.state = q.state
  rw [h.joins.without_extend hid hc]

theorem setItemSelected_setItemSelected (h : q.Coherent) {x : Item} (hx : x ∈ q.items)
    (hselected : x.selected = false) :
    TakesBack q (Query.setItemSelected x.id true) (Query.setItemSelected x.id false) () := by
  intro _ _
  have hmem : { x with selected := true } ∈ (q.withSelected x true).noted.items := by
    change _ ∈ (q.mapItems _).items
    rw [items_mapItems]
    exact List.mem_map.mpr ⟨x, hx, Container.onItem_self _ x⟩
  -- the item was off and is on now, so neither step is a silent one
  have hback := (h.withSelected hx true).noted.setItemSelected_of_mem hmem false
  rw [if_neg (by simp)] at hback
  rw [h.setItemSelected_of_mem hx, hselected, if_neg Bool.false_ne_true]
  refine ⟨congrArg Outcome.result hback, (congrArg (fun o => o.query.state) hback).trans ?_⟩
  change ((q.withSelected x true).withSelected { x with selected := true } false).state = q.state
  rw [h.withSelected_withSelected hx hselected]

end Coherent

/-- **Adding and then removing is as if nothing had happened.** At every query that a history comes
to, with the document, the index of the items and the registry of the joins as the state:

* a table whose items have distinct identities is added and removed without a trace, whether its
  items are selected and sorted or not; it comes back with its items deselected;
* so is an item, at whatever place of whatever container it is put in; it comes back deselected and
  without a container;
* so is a join, and it comes back as it was registered: an end at a container that had joins has
  taken over their outer flag;
* an item that was not selected is selected and deselected without a trace.

Whenever the first step succeeds, so does the second one. -/
theorem Reachable.taken_back (h : q.Reachable) :
    (∀ c : Container, (c.items.map (·.id)).Nodup →
      TakesBack q (addTable c) (removeTable c.id)
        (c.adopt.mapItems fun x => { x with selected := false })) ∧
    (∀ c index x, TakesBack q (insertItem c index x) (removeItem x.id)
      { x with selected := false, parent := none }) ∧
    (∀ j, ∃ k, JoinRegistry.IsForced q.joins j k ∧
      (∀ id, (addJoin j q).result = .ok id → (addJoin j q).query.joins.get? j.id = some k) ∧
      TakesBack q (addJoin j) (removeJoin j.id) k) ∧
    ∀ x ∈ q.items, x.selected = false →
      TakesBack q (setItemSelected x.id true) (setItemSelected x.id false) () := by
  have h := h.coherent
  refine ⟨fun c hnd => h.addTable_removeTable hnd, h.insertItem_removeItem, fun j => ?_,
    fun x hx hselected => h.setItemSelected_setItemSelected hx hselected⟩
  -- a join comes back as it was stored, with the flags that were forced on it
  exact ⟨q.joins.forced j, h.joins.isForced j, fun id hok => h.get?_of_addJoin hok,
    h.addJoin_removeJoin j⟩

end Query

namespace Session

open Query

/-- A table with an item that is selected and sorted already. -/
def lateTable : Container :=
  { Container.table ⟨.ofNat 50⟩ "shops" with
    items := [{ Item.column ⟨.ofNat 51⟩ "city" with selected := true, sortOrder := .descending },
      Item.column ⟨.ofNat 52⟩ "street"] }

/-- An item that is selected already. -/
def lateItem : Item := { Item.column ⟨.ofNat 53⟩ "total" with selected := true }

/-- A join whose left end asks for another flag than the joins at its table have. -/
def lateJoin : Join :=
  ⟨⟨.ofNat 31⟩, ⟨⟨.ofNat 10⟩, ⟨.ofNat 11⟩, true⟩, ⟨⟨.ofNat 20⟩, ⟨.ofNat 22⟩, false⟩, .eq, none⟩

/-- In the sample a table, an item and a join are added and removed, and an item is selected and
deselected. The join comes back with the flag of its table. -/
theorem taken_back_sample :
    sampleQuery.Reachable ∧ (lateTable.items.map (·.id)).Nodup ∧
      (removeTable lateTable.id (addTable lateTable sampleQuery).query).query.state =
        sampleQuery.state ∧
      (removeItem lateItem.id
        (insertItem ⟨.ofNat 10⟩ 1 lateItem sampleQuery).query).query.state = sampleQuery.state ∧
      (∃ k, (removeJoin lateJoin.id (addJoin lateJoin sampleQuery).query).result = .ok k ∧
        k.left.outer = false) ∧
      (removeJoin lateJoin.id (addJoin lateJoin sampleQuery).query).query.state =
        sampleQuery.state ∧
      ∃ x ∈ sampleQuery.items, x.selected = false ∧
        (setItemSelected x.id false (setItemSelected x.id true sampleQuery).query).query.state =
          sampleQuery.state := by
  have hnd : (lateTable.items.map (·.id)).Nodup := by decide
  obtain ⟨htable, hitem, hjoin, hselect⟩ := sampleQuery_reachable.taken_back
  obtain ⟨k, hk, -, hback⟩ := hjoin lateJoin
  obtain ⟨hresult, hstate⟩ := hback lateJoin.id rfl
  -- the table at the left end has the join of the sample, which does not keep all its rows
  have hleft : k.left.outer = false := hk.shared .left
    ⟨⟨.ofNat 30⟩, ⟨⟨.ofNat 10⟩, ⟨.ofNat 12⟩, false⟩, ⟨⟨.ofNat 20⟩, ⟨.ofNat 21⟩, false⟩, .eq, none⟩
    List.mem_cons_self .left rfl
  refine ⟨sampleQuery_reachable, hnd, (htable lateTable hnd lateTable.id rfl).2,
    (hitem _ 1 lateItem lateItem.id rfl).2, ⟨k, hresult, hleft⟩, hstate,
    { Item.column ⟨.ofNat 12⟩ "customer" with parent := some ⟨.ofNat 10⟩ }, ?_, rfl,
    (hselect _ ?_ rfl () rfl).2⟩
  all_goals decide

end Session

end VisualQuery
