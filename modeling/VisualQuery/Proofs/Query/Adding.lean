import VisualQuery.Proofs.Query.Items
import VisualQuery.Query.Tables

/-!
# Adding items and tables keeps the invariant

An item is added to a container of the query, and a table with its items to the from-list. Either is
refused if an identity is taken; only a table that has two items with one identity itself slips
through, and then the invariant is lost. What is selected on the way in goes to the end of the
selection, in the order of the items (`foldl_enlist`).
-/

namespace VisualQuery.Query

open Change

variable {q : Query}

/-! ### Entering the lists -/

theorem enlist_eq (q : Query) (x : Item) :
    q.enlist x = { q with
      selection := q.selection ++ if x.selected = true then [x.id] else []
      sortList := q.sortList ++ if x.isSorted = true then [x.id] else [] } := by
  rw [enlist, Item.isSorted]
  cases x.selected with
  | false => simp
  | true =>
    cases x.sortOrder.isOrdered with
    | false => simp
    | true => simp

/-- Items enter the lists in order. -/
theorem foldl_enlist (xs : List Item) (q : Query) :
    xs.foldl enlist q = { q with
      selection := q.selection ++ (xs.filter (·.selected)).map (·.id)
      sortList := q.sortList ++ (xs.filter Item.isSorted).map (·.id) } := by
  induction xs generalizing q with
  | nil => simp
  | cons x rest ih =>
    -- selection and sort list grow alike, so one statement about flags serves both
    have hcons : ∀ flag : Item → Bool, ((x :: rest).filter flag).map (·.id) =
        (if flag x = true then [x.id] else []) ++ (rest.filter flag).map (·.id) := by
      intro flag
      rw [List.filter_cons]
      split <;> rfl
    rw [List.foldl_cons, ih, enlist_eq, hcons, hcons, List.append_assoc, List.append_assoc]

/-! ### Adding an item -/

/-- The query with an item put into one of its containers. -/
def withItem (k : Container) (index : Nat) (x : Item) (q : Query) : Query :=
  enlist { q.mapContainers fun k' => if k'.id = k.id then k'.insert index x else k' with
    itemIndex := q.itemIndex.set x.id k.id } x

theorem addItem_apply (c : ContainerId) (x : Item) (q : Query) :
    addItem c x q =
      insertItem c (((q.container? c).map (·.items.length)).getD 0) x q := by
  rw [addItem, get_bind]

/-- A blank constant is refused, and another one is added as an item. -/
theorem addConstant_apply (id : ItemId) (text : String) (q : Query) :
    addConstant id text q =
      if Text.isBlankText text then .refused (.invalidArgument .blankConstant) q
      else addItem q.constants.id (.constant id (Text.trim text)) q := by
  rw [addConstant]
  split
  · exact bind_of_refused (refuse_apply _ q)
  · exact get_bind _ q

namespace Coherent

/-- An identity that is taken is refused. -/
theorem insertItem_of_mem (h : q.Coherent) {x : Item} (hx : x.id ∈ q.items.map (·.id))
    (c : ContainerId) (index : Nat) :
    insertItem c index x q = .refused (.invalidArgument (.itemOwned x.id)) q := by
  rw [insertItem, get_bind, if_pos (h.isSome_get?_itemIndex hx)]
  exact bind_of_refused (refuse_apply _ q)

/-- So is a container that is not there. -/
theorem insertItem_of_unknown (h : q.Coherent) {x : Item} (hx : x.id ∉ q.items.map (·.id))
    {c : ContainerId} (hc : q.container? c = none) (index : Nat) :
    insertItem c index x q = .refused (.unknownContainer c) q := by
  rw [insertItem, get_bind, h.get?_itemIndex_eq_none hx]
  exact bind_of_refused (needContainer_of_none hc)

/-- A new item is put into its container and enters the lists. -/
theorem insertItem_of_mem_containers (h : q.Coherent) {k : Container} (hk : k ∈ q.containers)
    {x : Item} (hx : x.id ∉ q.items.map (·.id)) (index : Nat) :
    insertItem k.id index x q =
      .announced x.id (q.withItem k index x) (.itemAdded k.id x.id) := by
  rw [insertItem, get_bind, h.get?_itemIndex_eq_none hx]
  change (needContainer k.id >>= _) q = _
  rw [bind_of_silent (needContainer_of_some (h.container?_of_mem hk)), modify_bind, modify_bind,
    h.housed.modifyContainer_eq, announce_return rfl]
  rfl

/-- Adding a new item keeps the invariant. -/
theorem withItem (h : q.Coherent) {k : Container} (hk : k ∈ q.containers) {x : Item}
    (hx : x.id ∉ q.items.map (·.id)) (index : Nat) : (q.withItem k index x).Coherent := by
  have hhoused := h.housed.insertItem hk index (h.get?_itemIndex_eq_none hx)
  have hperm := h.housed.items_insert_perm hk index x
  -- a container stays a table, or the constants, whatever is put into it
  have hkind : ∀ k' : Container,
      (if k'.id = k.id then k'.insert index x else k').isConstants = k'.isConstants := by
    intro k'
    split <;> rfl
  rw [Query.withItem, enlist_eq]
  refine ⟨?_, hhoused, (hkind q.constants).trans h.constants_kind, ?_,
    Listing.insert (x := { x with parent := some k.id }) h.selection hx hperm,
    Listing.insert (x := { x with parent := some k.id }) h.sortList hx hperm, h.joins, ?_,
    h.globalWhere⟩
  · exact (Container.map_ids (fun k' => by split <;> rfl) q.tables).trans h.mapped
  · intro k' hk'
    obtain ⟨k₀, hk₀, rfl⟩ := List.mem_map.mp hk'
    exact (hkind k₀).trans (h.tables_kind k₀ hk₀)
  · intro j hj side
    -- every table holds at least what it held before
    refine holdsEnd_mono h.housed (by exact hhoused) (fun k₀ hk₀ _ hitem => ?_) (h.ends j hj side)
    refine ⟨_, List.mem_map_of_mem hk₀, ?_, ?_⟩
    · split <;> rfl
    · split
      · rw [((k₀.insert_perm index x).map _).mem_iff]
        exact List.mem_cons_of_mem _ hitem
      · exact hitem

theorem insertItem (h : q.Coherent) (c : ContainerId) (index : Nat) (x : Item) :
    (insertItem c index x q).query.Coherent := by
  by_cases hx : x.id ∈ q.items.map (·.id)
  · rw [h.insertItem_of_mem hx]
    exact h
  · cases hc : q.container? c with
    | none =>
      rw [h.insertItem_of_unknown hx hc]
      exact h
    | some k =>
      obtain ⟨hk, rfl⟩ := h.housed.container?_iff.mp hc
      rw [h.insertItem_of_mem_containers hk hx]
      exact (h.withItem hk hx index).noted

theorem addItem (h : q.Coherent) (c : ContainerId) (x : Item) :
    (addItem c x q).query.Coherent := by
  rw [addItem_apply]
  exact h.insertItem c _ x

theorem addConstant (h : q.Coherent) (id : ItemId) (text : String) :
    (addConstant id text q).query.Coherent := by
  rw [addConstant_apply]
  split
  · exact h
  · exact h.addItem _ _

end Coherent

/-! ### Adding a table -/

/-- The query with a table put behind the others. -/
def withTable (c : Container) (q : Query) : Query :=
  c.items.foldl enlist
    { q with
      itemIndex := q.itemIndex.enter c
      tables := q.tables ++ [c.adopt]
      tableIds := q.tableIds ++ [c.id] }

theorem addTable_of_constants {c : Container} (hc : c.isConstants = true) :
    addTable c q = .refused .constantsContainer q := by
  rw [addTable, if_pos hc]
  exact bind_of_refused (refuse_apply _ q)

/-- A table with a new identity is named at the end of the from-list. -/
theorem Listed.withTable (h : q.Listed) {c : Container} (hc : c.id ∉ q.tableIds) :
    (q.withTable c).Listed := by
  rw [Query.withTable, foldl_enlist]
  refine ⟨?_, ?_, h.joins⟩
  · show (q.tables ++ [c.adopt]).map (·.id) = q.tableIds ++ [c.id]
    rw [List.map_append, h.mapped]
    rfl
  · exact List.nodup_append.mpr ⟨h.nodup, List.nodup_singleton _, fun d hd e he heq =>
      hc (List.mem_singleton.mp he ▸ heq ▸ hd)⟩

namespace Coherent

/-- An identity that another container has is refused. -/
theorem addTable_of_mem (h : q.Coherent) {c : Container} (hkind : c.isConstants = false)
    (hc : c.id ∈ q.containers.map (·.id)) :
    addTable c q = .refused (.duplicateContainer c.id) q := by
  -- the guard tests the two kinds of containers separately
  have htaken : (q.table? c.id).isSome = true ∨ c.id = q.constants.id := by
    rcases List.mem_cons.mp hc with hc | hc
    · exact Or.inr hc
    · obtain ⟨k, hk, hid⟩ := List.mem_map.mp hc
      exact Or.inl (by rw [h.housed.table?_iff.mpr ⟨hk, hid⟩]; rfl)
  rw [addTable, if_neg (by rw [hkind]; exact Bool.false_ne_true)]
  change (get >>= _) q = _
  rw [get_bind]
  dsimp only
  rw [if_pos htaken]
  exact bind_of_refused (refuse_apply _ q)

/-- What is left to check is whether the query has one of the items. -/
theorem addTable_of_notMem (h : q.Coherent) {c : Container} (hkind : c.isConstants = false)
    (hc : c.id ∉ q.containers.map (·.id)) :
    addTable c q =
      (match c.items.find? fun x => (q.itemIndex.get? x.id).isSome with
      | some x => refuse (.invalidArgument (.itemOwned x.id))
      | none => do
        modify fun q =>
          { q with
            itemIndex := q.itemIndex.enter c
            tables := q.tables ++ [c.adopt]
            tableIds := q.tableIds ++ [c.id] }
        modify fun q => c.items.foldl enlist q
        announce (.containerAdded c.id)
        return c.id : Change ContainerId) q := by
  -- the other half of the guard is the test of the constants' own identifier
  have hfree : ¬ ((q.table? c.id).isSome = true ∨ c.id = q.constants.id) := by
    rintro (hsome | heq)
    · obtain ⟨k, hk⟩ := Option.isSome_iff_exists.mp hsome
      obtain ⟨hkq, hid⟩ := h.housed.table?_iff.mp hk
      exact hc (List.mem_map.mpr ⟨k, List.mem_cons_of_mem _ hkq, hid⟩)
    · exact hc (heq ▸ List.mem_cons_self)
  rw [addTable, if_neg (by rw [hkind]; exact Bool.false_ne_true)]
  change (get >>= _) q = _
  rw [get_bind]
  exact congrFun (if_neg hfree) q

/-- So is a table with an item that the query has. -/
theorem addTable_of_item (h : q.Coherent) {c : Container} (hkind : c.isConstants = false)
    (hc : c.id ∉ q.containers.map (·.id)) {x : Item} (hx : x ∈ c.items)
    (hitem : x.id ∈ q.items.map (·.id)) :
    ∃ y ∈ c.items, addTable c q = .refused (.invalidArgument (.itemOwned y.id)) q := by
  rw [addTable_of_notMem h hkind hc]
  cases hf : c.items.find? fun x => (q.itemIndex.get? x.id).isSome with
  | none =>
    have hunknown := List.find?_eq_none.mp hf x hx
    -- the item that the query has would have been found
    exact absurd (h.isSome_get?_itemIndex hitem) hunknown
  | some y => exact ⟨y, List.mem_of_find?_eq_some hf, refuse_apply _ q⟩

/-- A new table is put behind the others, and its items enter the lists. -/
theorem addTable_of_new (h : q.Coherent) {c : Container} (hkind : c.isConstants = false)
    (hc : c.id ∉ q.containers.map (·.id)) (hitems : ∀ x ∈ c.items, x.id ∉ q.items.map (·.id)) :
    addTable c q = .announced c.id (q.withTable c) (.containerAdded c.id) := by
  have hf : (c.items.find? fun x => (q.itemIndex.get? x.id).isSome) = none := by
    rw [List.find?_eq_none]
    intro x hx
    rw [h.get?_itemIndex_eq_none (hitems x hx)]
    exact Bool.false_ne_true
  rw [addTable_of_notMem h hkind hc, hf]
  dsimp only
  rw [modify_bind, modify_bind, announce_return rfl]
  rfl

/-- **Adding a new table keeps the invariant**, if its own items have distinct identities. -/
theorem withTable (h : q.Coherent) {c : Container} (hkind : c.isConstants = false)
    (hc : c.id ∉ q.containers.map (·.id)) (hitems : ∀ x ∈ c.items, x.id ∉ q.items.map (·.id))
    (hnd : (c.items.map (·.id)).Nodup) : (q.withTable c).Coherent := by
  have hhoused : Housed (q.containers ++ [c.adopt]) (q.itemIndex.enter c) := by
    rw [← ItemIndex.enter_adopt]
    refine h.housed.append hc (by rw [c.adopt_ids]; exact hnd) (fun x hx => ?_)
      fun x hx => Container.adopt_parent (c := c) hx
    -- the new parents do not change what the items are known by
    obtain ⟨y, hy, rfl⟩ := List.mem_map.mp hx
    exact h.get?_itemIndex_eq_none (hitems y hy)
  -- the lists do not read parents
  have hlisting : ∀ {flag : Item → Bool} {ids : List ItemId}, Listing q.items flag ids →
      (∀ x ∈ c.items, flag { x with parent := some c.id } = flag x) →
      Listing ((q.containers ++ [c.adopt]).flatMap (·.items)) flag
        (ids ++ (c.items.filter flag).map (·.id)) := by
    intro flag ids hids hflag
    have hids' : (c.adopt.items.filter flag).map (·.id) = (c.items.filter flag).map (·.id) := by
      rw [Container.adopt, List.filter_map, List.map_map]
      exact congrArg (List.map _) (List.filter_congr hflag)
    rw [List.flatMap_append, List.flatMap_singleton, ← hids']
    refine hids.append (by rw [c.adopt_ids]; exact hnd) fun x hx => ?_
    obtain ⟨y, hy, rfl⟩ := List.mem_map.mp hx
    exact hitems y hy
  have hlisted := h.listed.withTable (h.notMem_tableIds hc)
  rw [Query.withTable, foldl_enlist] at hlisted ⊢
  refine ⟨hlisted.mapped, hhoused, h.constants_kind, ?_, hlisting h.selection fun _ _ => rfl,
    hlisting h.sortList fun _ _ => rfl, h.joins, ?_, h.globalWhere⟩
  · intro k hk
    rcases List.mem_append.mp hk with hk | hk
    · exact h.tables_kind k hk
    · rw [List.mem_singleton.mp hk]
      exact hkind
  · intro j hj side
    refine holdsEnd_mono h.housed (by exact hhoused) (fun k hk _ hitem => ?_) (h.ends j hj side)
    exact ⟨k, List.mem_append_left _ hk, rfl, hitem⟩

theorem addTable (h : q.Coherent) (c : Container) (hnd : (c.items.map (·.id)).Nodup) :
    (addTable c q).query.Coherent := by
  cases hkind : c.isConstants with
  | true =>
    rw [addTable_of_constants hkind]
    exact h
  | false =>
    by_cases hc : c.id ∈ q.containers.map (·.id)
    · rw [h.addTable_of_mem hkind hc]
      exact h
    · by_cases hitems : ∀ x ∈ c.items, x.id ∉ q.items.map (·.id)
      · rw [h.addTable_of_new hkind hc hitems]
        exact (h.withTable hkind hc hitems hnd).noted
      · -- the query has one of the items already
        push Not at hitems
        obtain ⟨x, hx, hitem⟩ := hitems
        obtain ⟨y, -, hy⟩ := h.addTable_of_item hkind hc hx hitem
        rw [hy]
        exact h

end Coherent

end VisualQuery.Query
