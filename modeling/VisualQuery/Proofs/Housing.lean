import VisualQuery.Proofs.Change
import VisualQuery.Proofs.Containers

/-!
# Each item in its container

An item is looked up in two steps: the index tells its container, and the container is searched for
it. `Housed` says that this works: the containers of a query and their items have distinct
identities, the index lists exactly the items that are there, each with the container that holds it,
and every item knows that container. Under it a look-up is a question of membership:

* `Housed.container?_iff`, `Housed.containerOf?_iff` and `Housed.item?_iff`.

The library writes to one container or one item at a time. Under `Housed` that is the same as
writing to all of them by a condition on identities (`Housed.modifyContainer_eq` for a container,
`Housed.modifyItem_eq` for an item), which says at once that everything else stays. How such writes
keep `Housed` is the second half of the module.
-/

namespace VisualQuery

/-- **Each item is in one container, and the index tells which.** -/
structure Housed (containers : List Container) (index : ItemIndex) : Prop where
  /-- No two containers have the same identity. -/
  containers_nodup : (containers.map (·.id)).Nodup
  /-- No two items have the same identity, wherever they are. -/
  items_nodup : ((containers.flatMap (·.items)).map (·.id)).Nodup
  /-- The index lists no item twice. -/
  index_nodup : (index.map Prod.fst).Nodup
  /-- The index lists an item with the container that holds it, and no other item. -/
  get?_iff : ∀ x c, index.get? x = some c ↔ ∃ k ∈ containers, k.id = c ∧ x ∈ k.items.map (·.id)
  /-- Each item knows its container. -/
  parent : ∀ k ∈ containers, ∀ x ∈ k.items, x.parent = some k.id

namespace Housed

variable {containers : List Container} {index : ItemIndex}

theorem eq_of_id (h : Housed containers index) {k k' : Container} (hk : k ∈ containers)
    (hk' : k' ∈ containers) (hid : k.id = k'.id) : k = k' :=
  List.inj_on_of_nodup_map h.containers_nodup hk hk' hid

/-- The items of one container have distinct identities. -/
theorem nodup_of_mem (h : Housed containers index) {k : Container} (hk : k ∈ containers) :
    (k.items.map (·.id)).Nodup := by
  have hnd := h.items_nodup
  rw [List.map_flatMap] at hnd
  exact (List.nodup_flatMap.mp hnd).1 k hk

/-- An item is held by one container only. -/
theorem eq_of_item (h : Housed containers index) {k k' : Container} {x : ItemId}
    (hk : k ∈ containers) (hk' : k' ∈ containers) (hx : x ∈ k.items.map (·.id))
    (hx' : x ∈ k'.items.map (·.id)) : k = k' := by
  have hget := (h.get?_iff x k.id).mpr ⟨k, hk, rfl, hx⟩
  have hget' := (h.get?_iff x k'.id).mpr ⟨k', hk', rfl, hx'⟩
  rw [hget] at hget'
  exact h.eq_of_id hk hk' (Option.some.inj hget')

theorem get?_eq_none_iff (h : Housed containers index) {x : ItemId} :
    index.get? x = none ↔ x ∉ (containers.flatMap (·.items)).map (·.id) := by
  rw [Option.eq_none_iff_forall_ne_some]
  constructor
  · intro hnone hx
    obtain ⟨i, hi, rfl⟩ := List.mem_map.mp hx
    obtain ⟨k, hk, hik⟩ := List.mem_flatMap.mp hi
    exact hnone k.id ((h.get?_iff i.id k.id).mpr ⟨k, hk, rfl, List.mem_map_of_mem hik⟩)
  · intro hx c hc
    obtain ⟨k, hk, -, hxk⟩ := (h.get?_iff x c).mp hc
    obtain ⟨i, hi, rfl⟩ := List.mem_map.mp hxk
    exact hx (List.mem_map_of_mem (List.mem_flatMap.mpr ⟨k, hk, hi⟩))

end Housed

namespace Query

/-- The items that the containers of the query hold. -/
def items (q : Query) : List Item := q.containers.flatMap (·.items)

/-- The query with each of its containers changed. -/
def mapContainers (f : Container → Container) (q : Query) : Query :=
  { q with constants := f q.constants, tables := q.tables.map f }

/-- The query with each of its items changed. -/
def mapItems (g : Item → Item) (q : Query) : Query := q.mapContainers (·.mapItems g)

/-- The query with some of its items only. -/
def filterItems (p : Item → Bool) (q : Query) : Query := q.mapContainers (·.filterItems p)

variable {q : Query}

theorem mem_items {x : Item} : x ∈ q.items ↔ ∃ k ∈ q.containers, x ∈ k.items := List.mem_flatMap

/-- A table that the from-list leads to is one of the map. -/
theorem mem_of_mem_fromTables {k : Container} (hk : k ∈ q.fromTables) : k ∈ q.tables := by
  obtain ⟨c, -, hc⟩ := List.mem_filterMap.mp hk
  exact (Keyed.find?_eq_some hc).1

theorem mem_items_of_mem_itemsInOrder {x : Item} (hx : x ∈ q.itemsInOrder) : x ∈ q.items := by
  obtain ⟨k, hk, hxk⟩ := List.mem_flatMap.mp hx
  refine mem_items.mpr ⟨k, ?_, hxk⟩
  rcases List.mem_cons.mp hk with rfl | hk
  · exact List.mem_cons_self
  · exact List.mem_cons_of_mem _ (mem_of_mem_fromTables hk)

theorem mem_itemIds {x : ItemId} :
    x ∈ q.items.map (·.id) ↔ ∃ k ∈ q.containers, x ∈ k.items.map (·.id) := by
  constructor
  · intro hx
    obtain ⟨i, hi, rfl⟩ := List.mem_map.mp hx
    obtain ⟨k, hk, hik⟩ := mem_items.mp hi
    exact ⟨k, hk, List.mem_map_of_mem hik⟩
  · rintro ⟨k, hk, hx⟩
    obtain ⟨i, hi, rfl⟩ := List.mem_map.mp hx
    exact List.mem_map_of_mem (mem_items.mpr ⟨k, hk, hi⟩)

@[simp] theorem containers_mapContainers (f : Container → Container) (q : Query) :
    (q.mapContainers f).containers = q.containers.map f := rfl

theorem mapContainers_congr {f g : Container → Container} (h : ∀ k ∈ q.containers, f k = g k) :
    q.mapContainers f = q.mapContainers g := by
  rw [mapContainers, mapContainers, h q.constants List.mem_cons_self,
    List.map_congr_left fun k hk => h k (List.mem_cons_of_mem _ hk)]

@[simp] theorem items_mapItems (g : Item → Item) (q : Query) :
    (q.mapItems g).items = q.items.map g := by
  rw [items, items, mapItems, containers_mapContainers, List.flatMap_map, List.map_flatMap]
  rfl

@[simp] theorem items_filterItems (p : Item → Bool) (q : Query) :
    (q.filterItems p).items = q.items.filter p := by
  rw [items, items, filterItems, containers_mapContainers, List.flatMap_map, List.filter_flatMap]
  rfl

theorem mapItems_congr {g g' : Item → Item} (h : ∀ x ∈ q.items, g x = g' x) :
    q.mapItems g = q.mapItems g' := by
  refine mapContainers_congr fun k hk => ?_
  have hitems : k.items.map g = k.items.map g' :=
    List.map_congr_left fun x hx => h x (mem_items.mpr ⟨k, hk, hx⟩)
  rw [Container.mapItems, Container.mapItems, hitems]

theorem mapItems_mapItems (g g' : Item → Item) (q : Query) :
    (q.mapItems g).mapItems g' = q.mapItems (g' ∘ g) := by
  have hcontainer : ∀ k : Container, (k.mapItems g).mapItems g' = k.mapItems (g' ∘ g) := fun k =>
    congrArg (fun items => { k with items }) List.map_map
  have htables : (q.tables.map (·.mapItems g)).map (·.mapItems g') =
      q.tables.map (·.mapItems (g' ∘ g)) :=
    List.map_map.trans (List.map_congr_left fun k _ => hcontainer k)
  rw [mapItems, mapItems, mapItems, mapContainers, mapContainers, mapContainers]
  dsimp only
  rw [hcontainer, htables]

theorem mapItems_self {g : Item → Item} (h : ∀ x ∈ q.items, g x = x) : q.mapItems g = q := by
  have hcontainer : ∀ k ∈ q.containers, k.mapItems g = k := fun k hk =>
    Container.mapItems_eq_self fun x hx => h x (mem_items.mpr ⟨k, hk, hx⟩)
  rw [mapItems, mapContainers_congr (g := fun k => k) hcontainer, mapContainers, List.map_id']

/-- A change of items that are then taken away does not matter. -/
theorem filterItems_mapItems {g : Item → Item} {p : Item → Bool} (hp : ∀ x, p (g x) = p x)
    (hg : ∀ x, p x = true → g x = x) (q : Query) :
    (q.mapItems g).filterItems p = q.filterItems p := by
  -- the items that change are filtered out, before or after
  have hcontainer : ∀ k : Container, (k.mapItems g).filterItems p = k.filterItems p := by
    intro k
    refine congrArg (fun items => { k with items }) ?_
    rw [Container.mapItems, List.filter_map, show p ∘ g = p from funext hp]
    exact (List.map_congr_left fun x hx => hg x (List.mem_filter.mp hx).2).trans (List.map_id' _)
  have htables : (q.tables.map (·.mapItems g)).map (·.filterItems p) =
      q.tables.map (·.filterItems p) :=
    List.map_map.trans (List.map_congr_left fun k _ => hcontainer k)
  rw [mapItems, filterItems, filterItems, mapContainers, mapContainers, mapContainers]
  dsimp only
  rw [hcontainer, htables]

theorem container?_eq_find? (q : Query) (c : ContainerId) :
    q.container? c = q.containers.find? (·.id = c) := by
  rw [container?, containers, List.find?_cons]
  by_cases hc : c = q.constants.id
  · rw [if_pos hc, decide_eq_true hc.symm]
  · rw [if_neg hc, decide_eq_false (Ne.symm hc)]
    rfl

/-- An item that is found is there. -/
theorem item?_eq_some {id : ItemId} {x : Item} (h : q.item? id = some x) :
    x ∈ q.items ∧ x.id = id := by
  obtain ⟨k, hk, hx⟩ := Option.bind_eq_some_iff.mp h
  obtain ⟨c, -, hk⟩ := Option.bind_eq_some_iff.mp hk
  rw [container?_eq_find?] at hk
  obtain ⟨hxk, hid⟩ := Keyed.find?_eq_some hx
  exact ⟨mem_items.mpr ⟨k, (Keyed.find?_eq_some hk).1, hxk⟩, hid⟩

end Query

namespace Housed

variable {q : Query}

/-! ### Looking things up -/

theorem container?_iff (h : Housed q.containers q.itemIndex) {c : ContainerId} {k : Container} :
    q.container? c = some k ↔ k ∈ q.containers ∧ k.id = c := by
  rw [q.container?_eq_find?, Keyed.find?_eq_some_iff h.containers_nodup]

theorem table?_iff (h : Housed q.containers q.itemIndex) {c : ContainerId} {k : Container} :
    q.table? c = some k ↔ k ∈ q.tables ∧ k.id = c :=
  Keyed.find?_eq_some_iff (List.nodup_cons.mp h.containers_nodup).2

theorem containerOf?_iff (h : Housed q.containers q.itemIndex) {x : ItemId} {k : Container} :
    q.containerOf? x = some k ↔ k ∈ q.containers ∧ x ∈ k.items.map (·.id) := by
  rw [Query.containerOf?, Option.bind_eq_some_iff]
  constructor
  · rintro ⟨c, hc, hk⟩
    obtain ⟨hkc, rfl⟩ := h.container?_iff.mp hk
    obtain ⟨k', hk', hid, hx⟩ := (h.get?_iff x k.id).mp hc
    rw [h.eq_of_id hk' hkc hid] at hx
    exact ⟨hkc, hx⟩
  · rintro ⟨hk, hx⟩
    exact ⟨k.id, (h.get?_iff x k.id).mpr ⟨k, hk, rfl, hx⟩, h.container?_iff.mpr ⟨hk, rfl⟩⟩

theorem container_item?_iff (h : Housed q.containers q.itemIndex) {k : Container}
    (hk : k ∈ q.containers) {id : ItemId} {x : Item} :
    k.item? id = some x ↔ x ∈ k.items ∧ x.id = id :=
  Keyed.find?_eq_some_iff (h.nodup_of_mem hk)

/-- Looking an item up finds the item that is there. -/
theorem item?_iff (h : Housed q.containers q.itemIndex) {id : ItemId} {x : Item} :
    q.item? id = some x ↔ x ∈ q.items ∧ x.id = id := by
  refine ⟨Query.item?_eq_some, ?_⟩
  rintro ⟨hx, rfl⟩
  obtain ⟨k, hk, hxk⟩ := Query.mem_items.mp hx
  exact Option.bind_eq_some_iff.mpr ⟨k, h.containerOf?_iff.mpr ⟨hk, List.mem_map_of_mem hxk⟩,
    (h.container_item?_iff hk).mpr ⟨hxk, rfl⟩⟩

theorem item?_eq_none_iff (h : Housed q.containers q.itemIndex) {id : ItemId} :
    q.item? id = none ↔ id ∉ q.items.map (·.id) := by
  rw [Option.eq_none_iff_forall_ne_some]
  constructor
  · intro hnone hid
    obtain ⟨x, hx, rfl⟩ := List.mem_map.mp hid
    exact hnone x (h.item?_iff.mpr ⟨hx, rfl⟩)
  · intro hid x hx
    obtain ⟨hxq, rfl⟩ := h.item?_iff.mp hx
    exact hid (List.mem_map_of_mem hxq)

theorem eq_of_itemId (h : Housed q.containers q.itemIndex) {x y : Item} (hx : x ∈ q.items)
    (hy : y ∈ q.items) (hid : x.id = y.id) : x = y :=
  List.inj_on_of_nodup_map h.items_nodup hx hy hid

/-! ### Writing to one container or one item -/

/-- Changing a container changes the one with the identity, and no other one has it. -/
theorem modifyContainer_eq (h : Housed q.containers q.itemIndex) (c : ContainerId)
    (f : Container → Container) :
    q.modifyContainer c f = q.mapContainers fun k => if k.id = c then f k else k := by
  rw [Query.modifyContainer, Query.mapContainers]
  by_cases hc : c = q.constants.id
  · -- no table has the identity of the constants container
    have htables : q.tables.map (fun k => if k.id = c then f k else k) = q.tables := by
      have hother : ∀ k ∈ q.tables, (if k.id = c then f k else k) = k := by
        intro k hk
        rw [if_neg]
        intro hkc
        have hmem : q.constants.id ∈ q.tables.map (·.id) :=
          List.mem_map.mpr ⟨k, hk, hkc.trans hc⟩
        exact (List.nodup_cons.mp h.containers_nodup).1 hmem
      exact (List.map_congr_left hother).trans (List.map_id _)
    rw [if_pos hc, if_pos hc.symm, htables]
  · rw [if_neg hc, if_neg (Ne.symm hc)]

/-- Changing an item in the container that holds it, as a change of all items. -/
theorem modifyItem_eq (h : Housed q.containers q.itemIndex) {k : Container}
    (hk : k ∈ q.containers) {x : ItemId} (hx : x ∈ k.items.map (·.id)) (f : Item → Item) :
    q.modifyContainer k.id (·.modify x f) = q.mapItems (Container.onItem x f) := by
  rw [h.modifyContainer_eq, Query.mapItems]
  refine Query.mapContainers_congr fun k' hk' => ?_
  by_cases hid : k'.id = k.id
  · rw [if_pos hid, Container.modify_eq (h.nodup_of_mem hk')]
  · -- the item is in no other container
    rw [if_neg hid, Container.mapItems_eq_self]
    intro y hy
    refine Container.onItem_of_ne fun hyx => hid ?_
    rw [h.eq_of_item hk' hk (hyx ▸ List.mem_map_of_mem hy) hx]

/-- Replacing a container by itself without one of its items, as a choice among all items. -/
theorem filterItem_eq (h : Housed q.containers q.itemIndex) {k : Container}
    (hk : k ∈ q.containers) {x : ItemId} (hx : x ∈ k.items.map (·.id)) :
    q.modifyContainer k.id (fun _ => k.filterItems (·.id ≠ x)) = q.filterItems (·.id ≠ x) := by
  rw [h.modifyContainer_eq, Query.filterItems]
  refine Query.mapContainers_congr fun k' hk' => ?_
  by_cases hid : k'.id = k.id
  · rw [if_pos hid, h.eq_of_id hk' hk hid]
  · -- the item is in no other container
    rw [if_neg hid, Container.filterItems_eq_self]
    intro y hy
    rw [decide_eq_true_iff]
    intro hyx
    exact hid (congrArg (·.id) (h.eq_of_item hk' hk (hyx ▸ List.mem_map_of_mem hy) hx))

end Housed

/-! ### Writes that keep each item in its container -/

theorem Container.adopt_ids (c : Container) : c.adopt.items.map (·.id) = c.items.map (·.id) := by
  rw [Container.adopt, List.map_map]
  rfl

theorem Container.adopt_parent {c : Container} {x : Item} (hx : x ∈ c.adopt.items) :
    x.parent = some c.id := by
  obtain ⟨y, -, rfl⟩ := List.mem_map.mp hx
  rfl

theorem ItemIndex.enter_adopt (index : ItemIndex) (c : Container) :
    index.enter c.adopt = index.enter c := by
  rw [ItemIndex.enter, ItemIndex.enter, Container.adopt, List.foldl_map]

namespace Housed

variable {containers : List Container} {index : ItemIndex}

theorem nil : Housed [] [] where
  containers_nodup := List.nodup_nil
  items_nodup := List.nodup_nil
  index_nodup := List.nodup_nil
  get?_iff := fun _ _ => by simp [ItemIndex.get?]
  parent := fun _ hk => absurd hk List.not_mem_nil

/-- Changing items keeps each in its container, if their identities and parents stay. -/
theorem mapItems (h : Housed containers index) {g : Item → Item} (hid : ∀ x, (g x).id = x.id)
    (hparent : ∀ x, (g x).parent = x.parent) : Housed (containers.map (·.mapItems g)) index := by
  have hids : ∀ k : Container, (k.mapItems g).items.map (·.id) = k.items.map (·.id) := by
    intro k
    rw [Container.mapItems, List.map_map]
    exact List.map_congr_left fun x _ => hid x
  refine ⟨?_, ?_, h.index_nodup, ?_, ?_⟩
  · rw [List.map_map]
    exact h.containers_nodup
  · rw [List.flatMap_map, List.map_flatMap]
    simp only [hids]
    rw [← List.map_flatMap]
    exact h.items_nodup
  · -- the containers hold the same identities as before
    intro x c
    rw [h.get?_iff]
    constructor
    · rintro ⟨k, hk, hkc, hx⟩
      exact ⟨k.mapItems g, List.mem_map_of_mem hk, hkc, (hids k).symm ▸ hx⟩
    · rintro ⟨k', hk', hkc, hx⟩
      obtain ⟨k, hk, rfl⟩ := List.mem_map.mp hk'
      exact ⟨k, hk, hkc, hids k ▸ hx⟩
  · intro k' hk' x hx
    obtain ⟨k, hk, rfl⟩ := List.mem_map.mp hk'
    obtain ⟨y, hy, rfl⟩ := List.mem_map.mp hx
    rw [hparent]
    exact h.parent k hk y hy

/-- A container with new items can be put behind the others. -/
theorem append (h : Housed containers index) {c : Container} (hc : c.id ∉ containers.map (·.id))
    (hnd : (c.items.map (·.id)).Nodup) (hnew : ∀ x ∈ c.items, index.get? x.id = none)
    (hparent : ∀ x ∈ c.items, x.parent = some c.id) :
    Housed (containers ++ [c]) (index.enter c) := by
  refine ⟨?_, ?_, ItemIndex.nodup_keys_enter h.index_nodup c, ?_, ?_⟩
  · rw [List.map_append, List.nodup_append]
    refine ⟨h.containers_nodup, List.nodup_singleton _, ?_⟩
    rintro a ha b hb rfl
    rw [List.map_singleton, List.mem_singleton] at hb
    exact hc (hb ▸ ha)
  · -- an item that the index does not list is in no container
    rw [List.flatMap_append, List.map_append, List.nodup_append, List.flatMap_singleton]
    refine ⟨h.items_nodup, hnd, ?_⟩
    rintro a ha b hb rfl
    obtain ⟨x, hx, rfl⟩ := List.mem_map.mp hb
    exact h.get?_eq_none_iff.mp (hnew x hx) ha
  · intro x d
    rw [ItemIndex.get?_enter]
    by_cases hx : x ∈ c.items.map (·.id)
    · rw [if_pos hx, Option.some_inj]
      constructor
      · rintro rfl
        exact ⟨c, List.mem_append_right _ (List.mem_singleton_self c), rfl, hx⟩
      · rintro ⟨k, hk, rfl, hxk⟩
        rcases List.mem_append.mp hk with hk | hk
        · -- an old container does not hold a new item
          obtain ⟨y, hy, rfl⟩ := List.mem_map.mp hx
          have hget := (h.get?_iff y.id k.id).mpr ⟨k, hk, rfl, hxk⟩
          rw [hnew y hy] at hget
          exact absurd hget (by simp)
        · rw [List.mem_singleton.mp hk]
    · rw [if_neg hx, h.get?_iff]
      constructor
      · rintro ⟨k, hk, hkd, hxk⟩
        exact ⟨k, List.mem_append_left _ hk, hkd, hxk⟩
      · rintro ⟨k, hk, hkd, hxk⟩
        rcases List.mem_append.mp hk with hk | hk
        · exact ⟨k, hk, hkd, hxk⟩
        · exact absurd (List.mem_singleton.mp hk ▸ hxk) hx
  · intro k hk x hx
    rcases List.mem_append.mp hk with hk | hk
    · exact h.parent k hk x hx
    · rw [List.mem_singleton.mp hk] at hx ⊢
      exact hparent x hx

/-- A container can be taken out with its items. -/
theorem removeContainer (h : Housed containers index) {c : Container} (hc : c ∈ containers) :
    Housed (containers.filter (·.id ≠ c.id))
      (c.items.foldl (fun index x => index.erase x.id) index) := by
  have hmem : ∀ k, k ∈ containers.filter (·.id ≠ c.id) ↔ k ∈ containers ∧ k.id ≠ c.id := by
    intro k
    rw [List.mem_filter, decide_eq_true_iff]
  refine ⟨h.containers_nodup.sublist (List.filter_sublist.map _), ?_,
    ItemIndex.nodup_keys_foldl_erase h.index_nodup _, ?_, ?_⟩
  · have hnd := h.items_nodup
    rw [List.map_flatMap, List.nodup_flatMap] at hnd ⊢
    exact ⟨fun k hk => hnd.1 k ((hmem k).mp hk).1, hnd.2.sublist List.filter_sublist⟩
  · intro x d
    rw [ItemIndex.get?_foldl_erase]
    by_cases hx : x ∈ c.items.map (·.id)
    · -- an item of the container is in no other one
      rw [if_pos hx]
      refine ⟨fun hn => absurd hn (by simp), ?_⟩
      rintro ⟨k, hk, -, hxk⟩
      obtain ⟨hk, hne⟩ := (hmem k).mp hk
      exact absurd (congrArg (·.id) (h.eq_of_item hk hc hxk hx)) hne
    · rw [if_neg hx, h.get?_iff]
      constructor
      · rintro ⟨k, hk, hkd, hxk⟩
        refine ⟨k, (hmem k).mpr ⟨hk, fun heq => hx ?_⟩, hkd, hxk⟩
        rwa [← h.eq_of_id hk hc heq]
      · rintro ⟨k, hk, hkd, hxk⟩
        exact ⟨k, ((hmem k).mp hk).1, hkd, hxk⟩
  · intro k hk
    exact h.parent k ((hmem k).mp hk).1

/-- An item can be taken out of its container. -/
theorem removeItem (h : Housed containers index) (x : ItemId) :
    Housed (containers.map (·.filterItems (·.id ≠ x))) (index.erase x) := by
  have hmem : ∀ k : Container, ∀ y : ItemId,
      y ∈ (k.filterItems (·.id ≠ x)).items.map (·.id) ↔ y ∈ k.items.map (·.id) ∧ y ≠ x := by
    intro k y
    simp only [Container.filterItems, List.mem_map, List.mem_filter, decide_eq_true_iff]
    constructor
    · rintro ⟨z, ⟨hz, hzx⟩, rfl⟩
      exact ⟨⟨z, hz, rfl⟩, hzx⟩
    · rintro ⟨⟨z, hz, rfl⟩, hzx⟩
      exact ⟨z, ⟨hz, hzx⟩, rfl⟩
  refine ⟨?_, ?_, ItemIndex.nodup_keys_erase h.index_nodup, ?_, ?_⟩
  · rw [List.map_map]
    exact h.containers_nodup
  · -- all items taken together lose the one
    have hitems : (containers.map (·.filterItems (·.id ≠ x))).flatMap (·.items) =
        (containers.flatMap (·.items)).filter (·.id ≠ x) := by
      rw [List.flatMap_map, List.filter_flatMap]
      rfl
    rw [hitems]
    exact h.items_nodup.sublist (List.filter_sublist.map _)
  · intro y d
    rw [ItemIndex.get?_erase]
    by_cases hyx : y = x
    · rw [if_pos hyx]
      refine ⟨fun hn => absurd hn (by simp), ?_⟩
      rintro ⟨k', hk', -, hy⟩
      obtain ⟨k, -, rfl⟩ := List.mem_map.mp hk'
      exact absurd hyx ((hmem k y).mp hy).2
    · rw [if_neg hyx, h.get?_iff]
      constructor
      · rintro ⟨k, hk, hkd, hy⟩
        exact ⟨_, List.mem_map_of_mem hk, hkd, (hmem k y).mpr ⟨hy, hyx⟩⟩
      · rintro ⟨k', hk', hkd, hy⟩
        obtain ⟨k, hk, rfl⟩ := List.mem_map.mp hk'
        exact ⟨k, hk, hkd, ((hmem k y).mp hy).1⟩
  · intro k' hk' y hy
    obtain ⟨k, hk, rfl⟩ := List.mem_map.mp hk'
    exact h.parent k hk y (List.mem_of_mem_filter hy)

/-- The items behind putting one into a container: one more, wherever it was put. -/
theorem items_insert_perm (h : Housed containers index) {k : Container} (hk : k ∈ containers)
    (i : Nat) (x : Item) :
    ((containers.map fun k' => if k'.id = k.id then k'.insert i x else k').flatMap (·.items)).Perm
      ({ x with parent := some k.id } :: containers.flatMap (·.items)) := by
  obtain ⟨before, after, rfl⟩ := List.append_of_mem hk
  have hnd := h.containers_nodup
  rw [List.map_append, List.map_cons, List.nodup_append, List.nodup_cons] at hnd
  -- no other container has the identity
  have hbefore : before.map (fun k' => if k'.id = k.id then k'.insert i x else k') = before := by
    refine (List.map_congr_left (g := id) fun k' hk' => if_neg fun heq => ?_).trans (List.map_id _)
    exact hnd.2.2 k'.id (List.mem_map_of_mem hk') k.id List.mem_cons_self heq
  have hafter : after.map (fun k' => if k'.id = k.id then k'.insert i x else k') = after := by
    refine (List.map_congr_left (g := id) fun k' hk' => if_neg fun heq => ?_).trans (List.map_id _)
    exact hnd.2.1.1 (heq ▸ List.mem_map_of_mem hk')
  rw [List.map_append, List.map_cons, hbefore, hafter, if_pos rfl, List.flatMap_append,
    List.flatMap_append, List.flatMap_cons, List.flatMap_cons]
  refine ((List.Perm.append_left _ ((k.insert_perm i x).append_right _)).trans ?_)
  exact List.perm_middle

/-- A new item can be put into a container. -/
theorem insertItem (h : Housed containers index) {k : Container} (hk : k ∈ containers) (i : Nat)
    {x : Item} (hnew : index.get? x.id = none) :
    Housed (containers.map fun k' => if k'.id = k.id then k'.insert i x else k')
      (index.set x.id k.id) := by
  have hmem : ∀ k' : Container, ∀ y : ItemId,
      y ∈ (k'.insert i x).items.map (·.id) ↔ y = x.id ∨ y ∈ k'.items.map (·.id) := by
    intro k' y
    rw [((k'.insert_perm i x).map _).mem_iff, List.map_cons, List.mem_cons]
  refine ⟨?_, ?_, ItemIndex.nodup_keys_set h.index_nodup, ?_, ?_⟩
  · -- putting an item in does not change the identity of a container
    rw [Container.map_ids fun k' => by split <;> rfl]
    exact h.containers_nodup
  · rw [((h.items_insert_perm hk i x).map _).nodup_iff, List.map_cons, List.nodup_cons]
    exact ⟨h.get?_eq_none_iff.mp hnew, h.items_nodup⟩
  · intro y d
    rw [ItemIndex.get?_set]
    by_cases hyx : y = x.id
    · rw [if_pos hyx, Option.some_inj]
      constructor
      · rintro rfl
        refine ⟨k.insert i x, List.mem_map.mpr ⟨k, hk, if_pos rfl⟩, rfl, ?_⟩
        exact (hmem k y).mpr (Or.inl hyx)
      · rintro ⟨k', hk', rfl, hy⟩
        obtain ⟨k₀, hk₀, rfl⟩ := List.mem_map.mp hk'
        by_cases hid : k₀.id = k.id
        · rw [if_pos hid]
          exact hid.symm
        · -- another container does not hold the new item
          rw [if_neg hid] at hy
          have hget := (h.get?_iff y k₀.id).mpr ⟨k₀, hk₀, rfl, hy⟩
          rw [hyx, hnew] at hget
          exact absurd hget (by simp)
    · rw [if_neg hyx, h.get?_iff]
      constructor
      · rintro ⟨k', hk', rfl, hy⟩
        refine ⟨_, List.mem_map_of_mem hk', ?_, ?_⟩
        · split <;> rfl
        · split
          · exact (hmem k' y).mpr (Or.inr hy)
          · exact hy
      · rintro ⟨k', hk', rfl, hy⟩
        obtain ⟨k₀, hk₀, rfl⟩ := List.mem_map.mp hk'
        by_cases hid : k₀.id = k.id
        · rw [if_pos hid] at hy ⊢
          exact ⟨k₀, hk₀, rfl, ((hmem k₀ y).mp hy).resolve_left hyx⟩
        · rw [if_neg hid] at hy ⊢
          exact ⟨k₀, hk₀, rfl, hy⟩
  · intro k' hk' y hy
    obtain ⟨k₀, hk₀, rfl⟩ := List.mem_map.mp hk'
    by_cases hid : k₀.id = k.id
    · -- the new item gets its parent as it is put in
      rw [if_pos hid] at hy ⊢
      rcases List.mem_cons.mp ((k₀.insert_perm i x).mem_iff.mp hy) with rfl | hy
      · rfl
      · exact h.parent k₀ hk₀ y hy
    · rw [if_neg hid] at hy ⊢
      exact h.parent k₀ hk₀ y hy

end Housed

end VisualQuery
