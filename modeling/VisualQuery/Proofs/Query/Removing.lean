import VisualQuery.Proofs.Query.Items
import VisualQuery.Query.Tables

/-!
# Removing items, tables and joins keeps the invariant

A removal takes along what refers to the removed thing. An item leaves the selection first, then its
joins are removed, and then it is taken out of its container; a table does the same for all its
items. What the query is at the end is `Query.withoutItem` and `Query.withoutTable`, in which
nothing is left of the steps on the way.

The steps that announce something mark an open compound edit. Since the last step always does, it
does not matter which of the earlier ones did.
-/

namespace VisualQuery.Query

open Change

variable {q : Query}

/-! ### Inside a compound edit -/

theorem tables_opened (message : String) (q : Query) : (q.opened message).tables = q.tables := by
  rw [opened]
  split <;> rfl

theorem containers_opened (message : String) (q : Query) :
    (q.opened message).containers = q.containers := by
  rw [opened]
  split <;> rfl

theorem items_opened (message : String) (q : Query) : (q.opened message).items = q.items := by
  rw [items, containers_opened, ← items]

theorem joins_opened (message : String) (q : Query) : (q.opened message).joins = q.joins := by
  rw [opened]
  split <;> rfl

/-! ### Joins -/

/-- Removing joins one by one takes them out of the registry. -/
theorem removeJoins_reaches (ids : List JoinId) (q : Query) :
    Reaches (removeJoins ids) q ()
      ({ q with joins := (q.joins.removeAll ids).2 }.notedIf
        (!(q.joins.removeAll ids).1.isEmpty)) := by
  induction ids generalizing q with
  | nil => exact ⟨rfl, q.notedIf_false.symm⟩
  | cons id ids ih =>
    rw [removeJoins, JoinRegistry.removeAll]
    refine (Reaches.get q).bind ?_
    cases hr : q.joins.remove? id with
    -- a join that is gone already is passed over without a word
    | none => exact ih q
    | some removed =>
      obtain ⟨j, r⟩ := removed
      -- the mark is set once by the first removal, the later ones find it set
      have hrest : Reaches (removeJoins ids) { q with joins := r }.noted ()
          ({ q with joins := (r.removeAll ids).2 }.notedIf
            (true || !(r.removeAll ids).1.isEmpty)) := by
        rw [← notedIf_notedIf]
        exact ih { q with joins := r }.noted
      exact (Reaches.modify _ q).bind ((Reaches.announce rfl _).bind hrest)

/-- Taking one join out. -/
theorem removeJoin_of_get? {id : JoinId} {j : Join} (hj : q.joins.get? id = some j) :
    removeJoin id q =
      .announced j { q with joins := q.joins.without j } (.joinRemoved j) := by
  rw [removeJoin, get_bind, JoinRegistry.remove?_eq, hj, Option.map_some,
    bind_of_silent (need_some _ _ q)]
  dsimp only
  rw [modify_bind, announce_return rfl]

theorem removeJoin_of_notMem {id : JoinId} (hid : q.joins.get? id = none) :
    removeJoin id q = .refused (.unknownJoin id) q := by
  rw [removeJoin, get_bind, JoinRegistry.remove?_eq, hid]
  exact bind_of_refused (need_none _ q)

theorem Coherent.removeJoin (h : q.Coherent) (id : JoinId) :
    (removeJoin id q).query.Coherent := by
  cases hj : q.joins.get? id with
  | none =>
    rw [removeJoin_of_notMem hj]
    exact h
  | some j =>
    rw [removeJoin_of_get? hj]
    have hmem : j ∈ q.joins.joins := (JoinRegistry.get?_eq_some hj).1
    refine (h.withJoins (h.joins.without hmem) fun k hk => ?_).noted
    exact h.ends k (JoinRegistry.mem_without.mp hk).1

/-! ### Items -/

/-- The query without an item: it is in no container, on no list and at the end of no join. -/
def withoutItem (id : ItemId) (q : Query) : Query :=
  { q.filterItems (·.id ≠ id) with
    itemIndex := q.itemIndex.erase id
    selection := q.selection.filter (· ≠ id)
    sortList := q.sortList.filter (· ≠ id)
    joins := (q.joins.removeAll (q.joins.idsOfItem id)).2 }

/-- Once an item is taken out, it does not matter whether it was selected. -/
theorem filterItems_deselect (id : ItemId) (q : Query) :
    (q.deselect (· = id)).filterItems (·.id ≠ id) =
      { q.filterItems (·.id ≠ id) with
        selection := q.selection.filter (· ≠ id)
        sortList := q.sortList.filter (· ≠ id) } := by
  -- the only item whose flag changes is the one that leaves
  have hitems := filterItems_mapItems (p := fun x => x.id ≠ id)
    (g := fun x => { x with selected := x.selected && !decide (x.id = id) }) (fun _ => rfl)
    (fun x hx => by
      rw [decide_eq_false (of_decide_eq_true hx), Bool.not_false, Bool.and_true]) q
  have hrest : ∀ ids : List ItemId,
      ids.filter (fun y => !decide (y = id)) = ids.filter (· ≠ id) := fun ids =>
    List.filter_congr fun _ _ => decide_not.symm
  rw [← hitems, deselect, hrest, hrest]
  rfl

theorem withoutItem_eq (id : ItemId) (q : Query) :
    q.withoutItem id = { (q.deselect (· = id)).filterItems (·.id ≠ id) with
      itemIndex := q.itemIndex.erase id
      joins := (q.joins.removeAll (q.joins.idsOfItem id)).2 } := by
  rw [filterItems_deselect, withoutItem]

namespace Coherent

/-- **Taking an item out** of the selection, the joins and its container. -/
theorem detachItem_of_mem (h : q.Coherent) {x : Item} (hx : x ∈ q.items) :
    Reaches (detachItem x.id) q { x with selected := false, parent := none }
      (q.withoutItem x.id).noted := by
  obtain ⟨k, hk, hxk⟩ := mem_items.mp hx
  let r := (q.joins.removeAll (q.joins.idsOfItem x.id)).2
  let b := !(q.joins.removeAll (q.joins.idsOfItem x.id)).1.isEmpty
  let q₁ := (q.deselect (· = x.id)).notedIf x.selected
  let q₂ := { q₁ with joins := r }.notedIf b
  -- the item is still in its container when its joins are removed
  have hhoused : Housed q₂.containers q₂.itemIndex := (h.deselect (· = x.id)).housed
  let g : Item → Item := fun y => { y with selected := y.selected && !decide (y.id = x.id) }
  have hk₂ : k.mapItems g ∈ q₂.containers := List.mem_map_of_mem hk
  have hx₂ : g x ∈ (k.mapItems g).items := List.mem_map_of_mem hxk
  have hid : x.id ∈ (k.mapItems g).items.map (·.id) := List.mem_map.mpr ⟨g x, hx₂, rfl⟩
  have hindex : q₂.itemIndex.get? x.id = some k.id :=
    (hhoused.get?_iff x.id k.id).mpr ⟨_, hk₂, rfl, hid⟩
  have hcontainer : needContainer k.id q₂ = .silent (k.mapItems g) q₂ :=
    needContainer_of_some (hhoused.container?_iff.mpr ⟨hk₂, rfl⟩)
  have hremove : (k.mapItems g).remove? x.id =
      some ({ x with selected := false, parent := none },
        (k.mapItems g).filterItems (·.id ≠ x.id)) := by
    have hgx : { g x with parent := none } = { x with selected := false, parent := none } := by
      simp [g]
    rw [← hgx]
    exact Container.remove?_eq (hhoused.nodup_of_mem hk₂) hx₂
  -- the earlier marks do not matter any more
  have hlast : { q₂.modifyContainer k.id (fun _ => (k.mapItems g).filterItems (·.id ≠ x.id)) with
      itemIndex := q₂.itemIndex.erase x.id }.noted = (q.withoutItem x.id).noted := by
    have hfilter : q₂.modifyContainer k.id (fun _ => (k.mapItems g).filterItems (·.id ≠ x.id)) =
        q₂.filterItems (·.id ≠ x.id) := hhoused.filterItem_eq hk₂ hid
    rw [hfilter, withoutItem_eq]
    let w := { (q.deselect (· = x.id)).filterItems (·.id ≠ x.id) with
      itemIndex := q.itemIndex.erase x.id, joins := r }
    change ((w.notedIf x.selected).notedIf b).noted = w.noted
    rw [noted_notedIf, noted_notedIf]
  refine (h.deselectItem hx).bind ?_
  refine (Reaches.get q₁).bind ?_
  refine (removeJoins_reaches _ q₁).bind ?_
  refine (Reaches.get q₂).bind ?_
  rw [hindex]
  refine (Reaches.need _ _ q₂).bind ?_
  refine (Reaches.of_silent hcontainer).bind ?_
  rw [hremove]
  refine (Reaches.need _ _ q₂).bind ?_
  refine (Reaches.modify _ q₂).bind ((Reaches.announce rfl _).bind ?_)
  exact ⟨rfl, hlast⟩

/-- A query without one of its items has the invariant. -/
theorem withoutItem (h : q.Coherent) (id : ItemId) : (q.withoutItem id).Coherent := by
  have hhoused := h.housed.removeItem id
  have hitems : ∀ x, x ∈ (q.withoutItem id).items ↔ x ∈ q.items ∧ decide (x.id ≠ id) = true := by
    intro x
    change x ∈ (q.filterItems (·.id ≠ id)).items ↔ _
    rw [items_filterItems, List.mem_filter]
  obtain ⟨-, hjoins, hleft⟩ := h.joins.removeOfItem_eq id
  refine ⟨?_, hhoused, h.constants_kind, ?_, h.selection.restrict _ hitems,
    h.sortList.restrict _ hitems, hjoins, ?_, h.globalWhere⟩
  · exact (Container.map_ids (f := (·.filterItems (·.id ≠ id))) (fun _ => rfl) q.tables).trans
      h.mapped
  · intro k' hk'
    obtain ⟨k, hk, rfl⟩ := List.mem_map.mp hk'
    exact h.tables_kind k hk
  · intro j hj side
    change j ∈ (q.joins.removeAll (q.joins.idsOfItem id)).2.joins at hj
    rw [hleft, List.mem_filter] at hj
    -- a join that is left is not at the item
    have hne : (j.atSide side).item ≠ id := by
      have href := hj.2
      rw [Join.references, Bool.not_or, Bool.and_eq_true] at href
      cases side with
      | left => simpa [Join.atSide] using href.1
      | right => simpa [Join.atSide] using href.2
    refine holdsEnd_mono h.housed (by exact hhoused) (fun k hk _ hitem => ?_) (h.ends j hj.1 side)
    refine ⟨_, List.mem_map_of_mem hk, rfl, ?_⟩
    obtain ⟨x, hx, hid⟩ := List.mem_map.mp hitem
    refine List.mem_map.mpr ⟨x, List.mem_filter.mpr ⟨hx, ?_⟩, hid⟩
    rw [decide_eq_true_iff, hid]
    exact hne

theorem removeItem_of_mem (h : q.Coherent) {x : Item} (hx : x ∈ q.items) :
    Reaches (removeItem x.id) q { x with selected := false, parent := none }
      (((q.opened ("Removing item " ++ x.name)).withoutItem x.id).noted.closed) := by
  have hopened : x ∈ (q.opened ("Removing item " ++ x.name)).items := by
    rw [items_opened]
    exact hx
  rw [removeItem]
  refine (Reaches.get q).bind ?_
  rw [h.item?_of_mem hx]
  exact (Reaches.need _ _ q).bind (asCompoundEdit_reaches ((h.opened _).detachItem_of_mem hopened))

theorem removeItem_of_notMem (h : q.Coherent) {id : ItemId} (hid : id ∉ q.items.map (·.id)) :
    Query.removeItem id q = .refused (.unknownItem id) q := by
  rw [Query.removeItem, get_bind, h.housed.item?_eq_none_iff.mpr hid]
  exact bind_of_refused (need_none _ q)

/-- Removing an item keeps the invariant. -/
theorem removeItem (h : q.Coherent) (id : ItemId) : (removeItem id q).query.Coherent := by
  by_cases hid : id ∈ q.items.map (·.id)
  · obtain ⟨x, hx, rfl⟩ := List.mem_map.mp hid
    rw [(h.removeItem_of_mem hx).2]
    exact ((h.opened _).withoutItem x.id).noted.closed
  · rw [h.removeItem_of_notMem hid]
    exact h

end Coherent

/-! ### Tables -/

/-- The query without a table: its items are on no list, and no join is at it. -/
def withoutTable (k : Container) (q : Query) : Query :=
  { q with
    tables := q.tables.filter (·.id ≠ k.id)
    tableIds := q.tableIds.filter (· ≠ k.id)
    itemIndex := k.items.foldl (fun index x => index.erase x.id) q.itemIndex
    selection := q.selection.filter (· ∉ k.items.map (·.id))
    sortList := q.sortList.filter (· ∉ k.items.map (·.id))
    joins := (q.joins.removeContainer k.id).2 }

theorem mem_tableIds_withoutTable {k : Container} {id : ContainerId} (hid : id ∈ q.tableIds)
    (hne : id ≠ k.id) : id ∈ (q.withoutTable k).tableIds :=
  List.mem_filter.mpr ⟨hid, decide_eq_true hne⟩

namespace Coherent

/-- Taking items out of the selection, one after the other. -/
theorem deselectAll_reaches (h : q.Coherent) {ids : List ItemId}
    (hids : ∀ id ∈ ids, id ∈ q.items.map (·.id)) :
    ∃ b, Reaches (deselectAll ids) q () ((q.deselect (· ∈ ids)).notedIf b) := by
  induction ids generalizing q with
  | nil =>
    have hnothing : q.deselect (· ∈ []) = q :=
      (h.deselect_congr fun _ _ _ => rfl).trans q.deselect_nothing
    exact ⟨false, rfl, by rw [hnothing, notedIf_false]; rfl⟩
  | cons id ids ih =>
    obtain ⟨x, hx, rfl⟩ := List.mem_map.mp (hids id List.mem_cons_self)
    let q₁ := (q.deselect (· = x.id)).notedIf x.selected
    have hitems : q₁.items.map (·.id) = q.items.map (·.id) := by
      change (q.mapItems _).items.map _ = _
      rw [items_mapItems, List.map_map]
      rfl
    have hcoh : q₁.Coherent := (h.deselect _).notedIf _
    obtain ⟨b, hrest⟩ := ih hcoh fun id hid => by
      rw [hitems]
      exact hids id (List.mem_cons_of_mem _ hid)
    refine ⟨x.selected || b, (h.deselectItem hx).bind ?_⟩
    -- first the one, then the others: all of them
    have hcons : q.deselect (· ∈ x.id :: ids) = (q.deselect (· = x.id)).deselect (· ∈ ids) := by
      rw [deselect_deselect]
      refine h.deselect_congr fun y _ _ => ?_
      rw [← Bool.decide_or, decide_eq_decide, List.mem_cons]
    rw [hcons, ← notedIf_notedIf]
    exact hrest

/-- The selected items of a container are taken out of the selection as all its items are. -/
theorem deselect_selected (h : q.Coherent) {k : Container} (hk : k ∈ q.containers) :
    q.deselect (· ∈ (k.items.filter (·.selected)).map (·.id)) =
      q.deselect (· ∈ k.items.map (·.id)) := by
  refine h.deselect_congr fun x hx hselected =>
    decide_eq_decide.mpr ⟨fun hmem => ?_, fun hmem => ?_⟩
  · exact (List.filter_sublist.map _).subset hmem
  · -- an identity belongs to one item, so this is the item that is selected
    obtain ⟨y, hy, hid⟩ := List.mem_map.mp hmem
    obtain rfl := h.housed.eq_of_itemId (mem_items.mpr ⟨k, hk, hy⟩) hx hid
    exact List.mem_map_of_mem (List.mem_filter.mpr ⟨hy, hselected⟩)

/-- Once a table is taken out, it does not matter which of its items were selected. -/
theorem withoutTable_eq (h : q.Coherent) {k : Container} (hk : k ∈ q.tables) :
    { q.deselect (· ∈ k.items.map (·.id)) with
      tables := (q.deselect (· ∈ k.items.map (·.id))).tables.filter (·.id ≠ k.id)
      tableIds := q.tableIds.filter (· ≠ k.id)
      itemIndex := k.items.foldl (fun index x => index.erase x.id) q.itemIndex
      joins := (q.joins.removeContainer k.id).2 } = q.withoutTable k := by
  let g : Item → Item := fun x =>
    { x with selected := x.selected && !decide (x.id ∈ k.items.map (·.id)) }
  -- the flags were cleared in the table that goes, and nowhere else
  have hother : ∀ k' ∈ q.containers, k'.id ≠ k.id → k'.mapItems g = k' := by
    intro k' hk' hne
    refine Container.mapItems_eq_self fun x hx => ?_
    have hx' : x.id ∉ k.items.map (·.id) := fun hmem =>
      hne (congrArg (·.id) (h.housed.eq_of_item hk' (List.mem_cons_of_mem _ hk)
        (List.mem_map_of_mem hx) hmem))
    change { x with selected := x.selected && !decide (x.id ∈ k.items.map (·.id)) } = x
    rw [decide_eq_false hx', Bool.not_false, Bool.and_true]
  have hconstants : q.constants.mapItems g = q.constants :=
    hother _ List.mem_cons_self (h.id_ne_constants hk).symm
  have htables : (q.tables.map (·.mapItems g)).filter (·.id ≠ k.id) =
      q.tables.filter (·.id ≠ k.id) := by
    rw [List.filter_map]
    refine (List.map_congr_left fun k' hk' => ?_).trans (List.map_id' _)
    obtain ⟨hk', hne⟩ := List.mem_filter.mp hk'
    exact hother k' (List.mem_cons_of_mem _ hk') (of_decide_eq_true hne)
  have hrest : ∀ ids : List ItemId, ids.filter (fun y => !decide (y ∈ k.items.map (·.id))) =
      ids.filter (· ∉ k.items.map (·.id)) := fun ids => List.filter_congr fun _ _ => decide_not.symm
  change ({ q with
    constants := q.constants.mapItems g
    tables := (q.tables.map (·.mapItems g)).filter (·.id ≠ k.id)
    tableIds := q.tableIds.filter (· ≠ k.id)
    itemIndex := k.items.foldl (fun index x => index.erase x.id) q.itemIndex
    selection := q.selection.filter fun y => !decide (y ∈ k.items.map (·.id))
    sortList := q.sortList.filter fun y => !decide (y ∈ k.items.map (·.id))
    joins := (q.joins.removeContainer k.id).2 } : Query) = _
  rw [hconstants, htables, hrest, hrest, withoutTable]

/-- **Taking a table out** of the selection, the joins and the from-list. -/
theorem detachTable_of_mem (h : q.Coherent) {k : Container} (hk : k ∈ q.tables) :
    Reaches (detachTable k.id) q (k.mapItems fun x => { x with selected := false })
      (q.withoutTable k).noted := by
  have hkq : k ∈ q.containers := List.mem_cons_of_mem _ hk
  have hselected : ∀ id ∈ (k.items.filter (·.selected)).map (·.id), id ∈ q.items.map (·.id) :=
    fun id hid => mem_itemIds.mpr ⟨k, hkq, (List.filter_sublist.map _).subset hid⟩
  obtain ⟨b, hdeselect⟩ := h.deselectAll_reaches hselected
  rw [h.deselect_selected hkq] at hdeselect
  let b' := !((q.joins.removeContainer k.id).1.map Event.joinRemoved).isEmpty
  let q₁ := (q.deselect (· ∈ k.items.map (·.id))).notedIf b
  let q₂ : Query := { q₁ with joins := (q.joins.removeContainer k.id).2 }
  -- the table is still there when its joins are removed
  have hcoh := h.deselect (· ∈ k.items.map (·.id))
  have hhoused : Housed (q₂.notedIf b').containers (q₂.notedIf b').itemIndex := hcoh.housed
  let g : Item → Item := fun x =>
    { x with selected := x.selected && !decide (x.id ∈ k.items.map (·.id)) }
  have hitems : k.mapItems g = k.mapItems fun x => { x with selected := false } := by
    refine congrArg (fun items => { k with items }) (List.map_congr_left fun x hx => ?_)
    change ({ x with selected := x.selected && !decide (x.id ∈ k.items.map (·.id)) } : Item) = _
    rw [decide_eq_true (List.mem_map_of_mem hx), Bool.not_true, Bool.and_false]
  have htable : (q₂.notedIf b').table? k.id =
      some (k.mapItems fun x => { x with selected := false }) := by
    rw [← hitems]
    exact hhoused.table?_iff.mpr ⟨List.mem_map_of_mem hk, rfl⟩
  refine (Reaches.get q).bind ?_
  rw [h.housed.table?_iff.mpr ⟨hk, rfl⟩]
  refine (Reaches.need _ k q).bind (hdeselect.bind ?_)
  refine (Reaches.get q₁).bind ?_
  refine (Reaches.modify _ q₁).bind ?_
  refine (Reaches.announceAll ?_ q₂).bind ?_
  · intro e he
    obtain ⟨j, -, rfl⟩ := List.mem_map.mp he
    rfl
  refine (Reaches.get (q₂.notedIf b')).bind ?_
  rw [htable]
  refine (Reaches.need _ _ (q₂.notedIf b')).bind ?_
  refine (Reaches.modify _ (q₂.notedIf b')).bind ((Reaches.announce rfl _).bind ?_)
  refine ⟨rfl, ?_⟩
  -- the earlier marks do not matter any more
  let w : Query := { q.deselect (· ∈ k.items.map (·.id)) with
    tables := (q.deselect (· ∈ k.items.map (·.id))).tables.filter (·.id ≠ k.id)
    tableIds := q.tableIds.filter (· ≠ k.id)
    itemIndex := k.items.foldl (fun index x => index.erase x.id) q.itemIndex
    joins := (q.joins.removeContainer k.id).2 }
  have hindex : ∀ index : ItemIndex,
      (k.mapItems fun x => { x with selected := false }).items.foldl
        (fun index x => index.erase x.id) index =
      k.items.foldl (fun index x => index.erase x.id) index := fun _ => List.foldl_map
  rw [hindex, ← h.withoutTable_eq hk]
  change ((w.notedIf b).notedIf b').noted = w.noted
  rw [noted_notedIf, noted_notedIf]

/-- A query without one of its tables has the invariant. -/
theorem withoutTable (h : q.Coherent) {k : Container} (hk : k ∈ q.tables) :
    (q.withoutTable k).Coherent := by
  have hkq : k ∈ q.containers := List.mem_cons_of_mem _ hk
  -- the constants container stays, since it is no table
  have hcontainers : (q.withoutTable k).containers = q.containers.filter (·.id ≠ k.id) := by
    rw [containers, containers, List.filter_cons, decide_eq_true (h.id_ne_constants hk).symm,
      if_pos rfl]
    rfl
  have hhoused : Housed (q.withoutTable k).containers (q.withoutTable k).itemIndex := by
    rw [hcontainers]
    exact h.housed.removeContainer hkq
  have hitems : ∀ x, x ∈ (q.withoutTable k).items ↔
      x ∈ q.items ∧ decide (x.id ∉ k.items.map (·.id)) = true := by
    intro x
    rw [mem_items, mem_items, hcontainers, decide_eq_true_iff]
    constructor
    · -- an item of another container is not among those of the table
      rintro ⟨k', hk', hx⟩
      obtain ⟨hk', hne⟩ := List.mem_filter.mp hk'
      refine ⟨⟨k', hk', hx⟩, fun hmem => of_decide_eq_true hne ?_⟩
      rw [h.housed.eq_of_item hk' hkq (List.mem_map_of_mem hx) hmem]
    · rintro ⟨⟨k', hk', hx⟩, hnot⟩
      refine ⟨k', List.mem_filter.mpr ⟨hk', decide_eq_true fun heq => hnot ?_⟩, hx⟩
      rw [← h.housed.eq_of_id hk' hkq heq]
      exact List.mem_map_of_mem hx
  obtain ⟨-, hjoins, hleft⟩ := h.joins.removeContainer_eq k.id
  have hmapped : (q.tables.filter (·.id ≠ k.id)).map (·.id) = q.tableIds.filter (· ≠ k.id) := by
    rw [← h.mapped, List.filter_map]
    rfl
  refine ⟨hmapped, hhoused, h.constants_kind,
    fun k' hk' => h.tables_kind k' (List.mem_of_mem_filter hk'),
    h.selection.restrict _ hitems, h.sortList.restrict _ hitems, hjoins, ?_, h.globalWhere⟩
  intro j hj side
  change j ∈ (q.joins.removeContainer k.id).2.joins at hj
  rw [hleft, List.mem_filter] at hj
  refine holdsEnd_mono h.housed hhoused (fun k' hk' hid hitem => ?_) (h.ends j hj.1 side)
  refine ⟨k', List.mem_filter.mpr ⟨hk', decide_eq_true fun heq => ?_⟩, rfl, hitem⟩
  -- a join that is left is not at the table
  have htouches : j.touches k.id = true := by
    rw [← heq, hid]
    exact j.touches_atSide side
  rw [htouches] at hj
  exact absurd hj.2 Bool.false_ne_true

theorem removeTable_of_mem (h : q.Coherent) {k : Container} (hk : k ∈ q.tables) :
    Reaches (removeTable k.id) q (k.mapItems fun x => { x with selected := false })
      ((q.opened ("Removing table " ++ k.name)).withoutTable k).noted.closed := by
  have hopened : k ∈ (q.opened ("Removing table " ++ k.name)).tables := by
    rw [tables_opened]
    exact hk
  rw [removeTable]
  refine (Reaches.get q).bind ?_
  -- both guards pass: it is not the constants, and it is listed
  rw [if_neg (h.id_ne_constants hk)]
  refine (Reaches.get q).bind ?_
  rw [h.housed.table?_iff.mpr ⟨hk, rfl⟩]
  exact (Reaches.need _ k q).bind
    (asCompoundEdit_reaches ((h.opened _).detachTable_of_mem hopened))

end Coherent

theorem removeTable_of_constants (q : Query) :
    removeTable q.constants.id q = .refused .constantsContainer q := by
  rw [removeTable, get_bind, if_pos rfl]
  exact bind_of_refused (refuse_apply _ q)

theorem removeTable_of_none {id : ContainerId} (hne : id ≠ q.constants.id)
    (hid : q.table? id = none) : removeTable id q = .refused (.unknownContainer id) q := by
  rw [removeTable, get_bind, if_neg hne]
  change (get >>= _) q = _
  rw [get_bind, hid]
  exact bind_of_refused (need_none _ q)

/-- Removing a table keeps the invariant. -/
theorem Coherent.removeTable (h : q.Coherent) (id : ContainerId) :
    (removeTable id q).query.Coherent := by
  by_cases hne : id = q.constants.id
  · rw [hne, removeTable_of_constants]
    exact h
  · cases hid : q.table? id with
    | none =>
      rw [removeTable_of_none hne hid]
      exact h
    | some k =>
      obtain ⟨hk, rfl⟩ := h.housed.table?_iff.mp hid
      -- the bracket opens before the table is detached
      have hopened : k ∈ (q.opened ("Removing table " ++ k.name)).tables := by
        rw [tables_opened]
        exact hk
      rw [(h.removeTable_of_mem hk).2]
      exact ((h.opened _).withoutTable hopened).noted.closed

end VisualQuery.Query
