import Mathlib.Data.List.Induction
import VisualQuery.Document
import VisualQuery.Proofs.JoinRegistry.Changes
import VisualQuery.Proofs.Query.Settings

/-!
# What the checks of loading say

Loading goes through the parts of a document one after the other and stops at the first one that
does not fit. Each check is a recursion over a list, with what was seen so far; this module says for
each of them which lists pass. A check that also asks that nothing is listed twice passes if the
list is `Fresh`: without repetitions, and without anything that was seen before.

That the items have distinct identities is not checked by comparing them. The index lists an
identity once, so the items are counted and the entries of the index are counted, and there are as
many of both if and only if no identity stands twice (`ItemIndex.length_foldl_enter_iff`). Then the
index lists each item with the container that holds it (`ItemIndex.get?_foldl_enter`).

`Document.toQuery_eq_ok_iff` puts the checks together: a document is accepted if each of them
passes, and what is made of it is known (`Document.loaded`).
-/

namespace VisualQuery

/-! ### Lists without repetitions -/

section Fresh

variable {α : Type} {x : α} {seen seen' ids : List α}

/-- A list that names nothing twice and nothing that was seen before. -/
def Fresh (seen ids : List α) : Prop := ids.Nodup ∧ ∀ x ∈ ids, x ∉ seen

theorem fresh_nil : Fresh seen [] := ⟨List.nodup_nil, fun _ h => absurd h List.not_mem_nil⟩

theorem fresh_cons : Fresh seen (x :: ids) ↔ x ∉ seen ∧ Fresh (x :: seen) ids := by
  rw [Fresh, Fresh, List.nodup_cons, List.forall_mem_cons]
  simp only [List.mem_cons, not_or]
  constructor
  · rintro ⟨⟨hx, hnd⟩, hseen, hrest⟩
    exact ⟨hseen, hnd, fun y hy => ⟨fun heq => hx (heq ▸ hy), hrest y hy⟩⟩
  · rintro ⟨hseen, hnd, hrest⟩
    exact ⟨⟨fun hx => (hrest x hx).1 rfl, hnd⟩, hseen, fun y hy => (hrest y hy).2⟩

theorem fresh_nil_left : Fresh [] ids ↔ ids.Nodup :=
  ⟨And.left, fun hnd => ⟨hnd, fun _ _ => List.not_mem_nil⟩⟩

/-- The order in which things were seen does not matter. -/
theorem fresh_congr (h : ∀ y, y ∈ seen ↔ y ∈ seen') : Fresh seen ids ↔ Fresh seen' ids := by
  simp only [Fresh, h]

end Fresh

/-! ### The index of all containers -/

namespace ItemIndex

variable {containers : List Container} {x : ItemId}

theorem nodup_keys_foldl_enter (containers : List Container) :
    ((containers.foldl enter []).map Prod.fst).Nodup := by
  induction containers using List.reverseRecOn with
  | nil => exact List.nodup_nil
  | append_singleton containers k ih =>
    rw [List.foldl_concat]
    exact nodup_keys_enter ih k

/-- A container that is entered later takes an item over, so the last one that holds it is listed
with it. -/
theorem get?_foldl_enter_concat (containers : List Container) (k : Container) (x : ItemId) :
    get? ((containers ++ [k]).foldl enter []) x =
      if x ∈ k.items.map (·.id) then some k.id else get? (containers.foldl enter []) x := by
  rw [List.foldl_concat, get?_enter]

theorem mem_keys_foldl_enter :
    x ∈ (containers.foldl enter []).map Prod.fst ↔
      x ∈ (containers.flatMap (·.items)).map (·.id) := by
  induction containers using List.reverseRecOn with
  | nil => exact Iff.rfl
  | append_singleton containers k ih =>
    -- on the items that are not found, since that is what the look-up says outright
    rw [← not_iff_not, ← Keyed.lookup_eq_none_iff] at ih ⊢
    change get? _ x = none ↔ _ at ih ⊢
    rw [get?_foldl_enter_concat, List.flatMap_append, List.map_append, List.mem_append,
      List.flatMap_singleton]
    by_cases hx : x ∈ k.items.map (·.id)
    · simp [hx]
    · rw [if_neg hx, ih, not_or, and_iff_left hx]

/-- **Counting tells whether an identity stands twice.** -/
theorem length_foldl_enter_iff :
    (containers.flatMap (·.items)).length = (containers.foldl enter []).length ↔
      ((containers.flatMap (·.items)).map (·.id)).Nodup := by
  have hkeys := nodup_keys_foldl_enter containers
  rw [← List.length_map (f := (·.id)), ← List.length_map (f := Prod.fst)]
  constructor
  · intro hlength
    -- the index lists all identities, and leaves none of the places out
    have hsub : List.Subperm ((containers.foldl enter []).map Prod.fst)
        ((containers.flatMap (·.items)).map (·.id)) :=
      List.subperm_of_subset hkeys fun _ hx => mem_keys_foldl_enter.mp hx
    exact (hsub.perm_of_length_le (Nat.le_of_eq hlength)).nodup hkeys
  · intro hnd
    have hperm := (List.perm_ext_iff_of_nodup hnd hkeys).mpr fun _ => mem_keys_foldl_enter.symm
    exact hperm.length_eq

/-- If no identity stands twice, the index lists an item with the container that holds it. -/
theorem get?_foldl_enter (hnd : ((containers.flatMap (·.items)).map (·.id)).Nodup)
    (c : ContainerId) :
    get? (containers.foldl enter []) x = some c ↔
      ∃ k ∈ containers, k.id = c ∧ x ∈ k.items.map (·.id) := by
  induction containers using List.reverseRecOn with
  | nil => simp [get?]
  | append_singleton containers k ih =>
    rw [List.flatMap_append, List.map_append, List.nodup_append, List.flatMap_singleton] at hnd
    rw [get?_foldl_enter_concat]
    constructor
    · intro hget
      by_cases hx : x ∈ k.items.map (·.id)
      · rw [if_pos hx] at hget
        exact ⟨k, List.mem_append_right _ (List.mem_singleton_self k), Option.some.inj hget, hx⟩
      · rw [if_neg hx] at hget
        obtain ⟨k', hk', hid, hx'⟩ := (ih hnd.1).mp hget
        exact ⟨k', List.mem_append_left _ hk', hid, hx'⟩
    · rintro ⟨k', hk', rfl, hx'⟩
      rcases List.mem_append.mp hk' with hk' | hk'
      · -- the last container does not hold an item of an earlier one
        have hx : x ∉ k.items.map (·.id) := by
          intro hx
          refine hnd.2.2 x ?_ x hx rfl
          rw [List.map_flatMap]
          exact List.mem_flatMap.mpr ⟨k', hk', hx'⟩
        rw [if_neg hx]
        exact (ih hnd.1).mpr ⟨k', hk', rfl, hx'⟩
      · rw [List.mem_singleton.mp hk'] at hx' ⊢
        rw [if_pos hx']

end ItemIndex

/-- Containers with distinct identities, and with distinct items that know them, can be entered into
a new index. -/
theorem Housed.of_nodup {containers : List Container} (hcontainers : (containers.map (·.id)).Nodup)
    (hitems : ((containers.flatMap (·.items)).map (·.id)).Nodup)
    (hparent : ∀ k ∈ containers, ∀ x ∈ k.items, x.parent = some k.id) :
    Housed containers (containers.foldl ItemIndex.enter []) where
  containers_nodup := hcontainers
  items_nodup := hitems
  index_nodup := ItemIndex.nodup_keys_foldl_enter containers
  get?_iff := fun _ c => ItemIndex.get?_foldl_enter hitems c
  parent := hparent

/-! ### Registering many joins -/

namespace JoinRegistry

variable {r : JoinRegistry} {js : List Join}

theorem mem_ids_extend (r : JoinRegistry) (j : Join) (x : JoinId) :
    x ∈ (r.extend j).ids ↔ x ∈ j.id :: r.ids := by
  have hids : (r.extend j).ids = r.ids ++ [j.id] := rfl
  rw [hids, List.mem_append, List.mem_singleton, List.mem_cons, or_comm]

theorem Coherent.foldl_extend (h : r.Coherent) (hfresh : Fresh r.ids (js.map (·.id)))
    (hapart : ∀ j ∈ js, j.left.container ≠ j.right.container) :
    (js.foldl JoinRegistry.extend r).Coherent := by
  induction js generalizing r with
  | nil => exact h
  | cons j js ih =>
    rw [List.map_cons, fresh_cons] at hfresh
    rw [List.forall_mem_cons] at hapart
    exact ih (h.extend hfresh.1 hapart.1) ((fresh_congr (mem_ids_extend r j)).mpr hfresh.2) hapart.2

/-- The joins are still between the same items once they are registered. -/
theorem exists_of_mem_foldl_extend {j : Join} (hj : j ∈ (js.foldl extend r).joins) :
    j ∈ r.joins ∨ ∃ j' ∈ js, ∀ side, (j.atSide side).container = (j'.atSide side).container ∧
      (j.atSide side).item = (j'.atSide side).item := by
  induction js generalizing r with
  | nil => exact Or.inl hj
  | cons k js ih =>
    rcases ih hj with hj | ⟨j', hj', hends⟩
    · rcases List.mem_append.mp hj with hj | hj
      · exact Or.inl hj
      · -- the join itself, with forced flags
        refine Or.inr ⟨k, List.mem_cons_self, fun side => ?_⟩
        rw [List.mem_singleton.mp hj]
        cases side <;> exact ⟨rfl, rfl⟩
    · exact Or.inr ⟨j', List.mem_cons_of_mem _ hj', hends⟩

end JoinRegistry

/-! ### The checks -/

/-- Two steps succeed if the first one does, and the second one behind it. -/
theorem bind_eq_ok {ε α β : Type} {x : Except ε α} {f : α → Except ε β} {b : β} :
    (x >>= f) = .ok b ↔ ∃ a, x = .ok a ∧ f a = .ok b := by
  cases x <;> simp [bind, Except.bind]

namespace Document

variable {d : Document} {q : Query}

theorem checkTables_eq_ok_iff {seen : List ContainerId} {tables : List Container} :
    checkTables seen tables = .ok () ↔
      (∀ k ∈ tables, k.isConstants = false) ∧ Fresh seen (tables.map (·.id)) := by
  induction tables generalizing seen with
  | nil => simp [checkTables, fresh_nil]
  | cons k tables ih =>
    rw [checkTables, List.map_cons, fresh_cons, List.forall_mem_cons]
    -- kind and repetition are checked at each table, so the list of those seen grows along
    by_cases hkind : k.isConstants = true
    · simp [hkind]
    · by_cases hseen : k.id ∈ seen
      · simp [hkind, hseen]
      · simp [hkind, hseen, ih]

theorem checkEnds_eq_ok_iff {j : Join} :
    checkEnds q j = .ok () ↔ ∀ side, q.holdsEnd (j.atSide side) = true := by
  have hsides : (∀ side, q.holdsEnd (j.atSide side) = true) ↔
      q.holdsEnd j.left = true ∧ q.holdsEnd j.right = true :=
    ⟨fun h => ⟨h .left, h .right⟩, fun h side => by cases side; exacts [h.1, h.2]⟩
  rw [hsides, checkEnds]
  cases hleft : q.holdsEnd j.left <;> cases hright : q.holdsEnd j.right <;>
    simp [hleft, hright, throw, throwThe, MonadExceptOf.throw, pure, Except.pure, bind, Except.bind]

/-- **The joins are registered one after the other** if the ends of each are held and at different
containers, and no identity stands twice. -/
theorem loadJoins_eq_ok_iff {into r : JoinRegistry} (hinto : into.Coherent) {js : List Join} :
    loadJoins q into js = .ok r ↔
      (∀ j ∈ js, (∀ side, q.holdsEnd (j.atSide side) = true) ∧
        j.left.container ≠ j.right.container) ∧
      Fresh into.ids (js.map (·.id)) ∧ js.foldl .extend into = r := by
  induction js generalizing into with
  | nil => simp [loadJoins, fresh_nil]
  | cons j js ih =>
    rw [loadJoins, List.map_cons, fresh_cons, List.forall_mem_cons, List.foldl_cons]
    by_cases hends : ∀ side, q.holdsEnd (j.atSide side) = true
    · rw [checkEnds_eq_ok_iff.mpr hends, hinto.add_eq]
      by_cases hid : j.id ∈ into.ids
      · simp [hid]
      · by_cases hc : j.left.container = j.right.container
        · simp [hid, hc]
        · -- the join is registered, and the rest is checked against the registry with it
          simp only [hid, hc, if_false, ih (hinto.extend hid hc),
            fresh_congr (into.mem_ids_extend j), hends]
          tauto
    · have hrefused : checkEnds q j ≠ .ok () := mt checkEnds_eq_ok_iff.mp hends
      cases hcheck : checkEnds q j with
      | error cause => simp [hends]
      | ok _ => exact absurd hcheck hrefused

theorem checkSelection_eq_ok_iff {seen selection : List ItemId} :
    checkSelection q seen selection = .ok () ↔
      (∀ x ∈ selection, ∃ item, q.item? x = some item) ∧ Fresh seen selection := by
  induction selection generalizing seen with
  | nil => simp [checkSelection, fresh_nil]
  | cons x selection ih =>
    rw [checkSelection, fresh_cons, List.forall_mem_cons]
    -- first that the item is known, then that it was not listed before
    cases hitem : q.item? x with
    | none => simp
    | some item =>
      by_cases hseen : x ∈ seen
      · simp [hseen]
      · simp [hseen, ih]

theorem checkSortList_eq_ok_iff {selection seen sortList : List ItemId} :
    checkSortList q selection seen sortList = .ok () ↔
      (∀ x ∈ sortList, ∃ item, q.item? x = some item ∧ x ∈ selection ∧
        item.sortOrder.isOrdered = true) ∧ Fresh seen sortList := by
  induction sortList generalizing seen with
  | nil => simp [checkSortList, fresh_nil]
  | cons x sortList ih =>
    rw [checkSortList, fresh_cons, List.forall_mem_cons]
    cases hitem : q.item? x with
    | none => simp
    | some item =>
      -- the three remaining checks report different errors, but only their conjunction matters here
      by_cases hkey : x ∈ selection ∧ item.sortOrder.isOrdered = true ∧ x ∉ seen
      · simp [hkey, ih]
      · simp only [hkey, if_false, Option.some_inj, exists_eq_left', reduceCtorEq, false_iff]
        tauto

/-! ### The containers of a document -/

/-- The containers of a document. -/
def containers (d : Document) : List Container := d.constants :: d.tables

/-- The items of a document. -/
def items (d : Document) : List Item := d.containers.flatMap (·.items)

theorem containers_bare : d.bare.containers = d.containers.map Container.adopt := rfl

theorem itemIndex_bare : d.bare.itemIndex = d.bare.containers.foldl ItemIndex.enter [] := rfl

theorem mem_items_bare {y : Item} :
    y ∈ d.bare.items ↔ ∃ k ∈ d.containers, ∃ x ∈ k.items, { x with parent := some k.id } = y := by
  simp only [Query.mem_items, containers_bare, List.mem_map, Container.adopt,
    exists_exists_and_eq_and]

theorem itemIds_bare : d.bare.items.map (·.id) = d.items.map (·.id) := by
  rw [Query.items, containers_bare, items, List.flatMap_map, List.map_flatMap, List.map_flatMap]
  simp only [Container.adopt_ids]

theorem mapped_bare (d : Document) : d.bare.tables.map (·.id) = d.bare.tableIds :=
  Container.map_ids (f := Container.adopt) (fun _ => rfl) d.tables

/-- The items are counted along the from-list, which names every table of the document, unless an
identity stands twice. -/
theorem itemCount_bare_iff (hnodup : (d.tables.map (·.id)).Nodup) :
    itemCount d.bare = d.bare.itemIndex.length ↔ (d.items.map (·.id)).Nodup := by
  have hfrom : d.bare.fromTables = d.bare.tables := Query.fromTables_eq d.mapped_bare hnodup
  rw [itemCount, Query.itemsInOrder, hfrom, itemIndex_bare, ← itemIds_bare, Query.items]
  exact ItemIndex.length_foldl_enter_iff

/-- The containers are housed once no identity stands twice. -/
theorem housed_bare (hcontainers : (d.containers.map (·.id)).Nodup)
    (hitems : (d.items.map (·.id)).Nodup) : Housed d.bare.containers d.bare.itemIndex := by
  rw [← itemIds_bare] at hitems
  refine Housed.of_nodup ?_ hitems fun k hk x hx => ?_
  · rw [containers_bare, List.map_map]
    exact hcontainers
  · rw [containers_bare, List.mem_map] at hk
    obtain ⟨k, -, rfl⟩ := hk
    exact Container.adopt_parent (c := k) hx

/-! ### The document as a whole -/

/-- The query that is made of a document whose joins are registered. -/
def loaded (d : Document) (r : JoinRegistry) : Query :=
  { d.bare with
    constants := flagSelected d.selectedItems d.bare.constants
    tables := d.bare.tables.map (flagSelected d.selectedItems)
    joins := r
    selection := d.selectedItems, sortList := d.orderByItems
    globalWhere := Text.nonBlank d.globalWhere, grouping := d.grouping, rowLimit := d.rowLimit
    streamingRowLimit := d.streamingRowLimit, streaming := d.streaming, zoom := d.zoom
    userOverride := d.userOverride }

/-- The steps of loading in their order. -/
theorem toQuery_eq_ok_iff_steps :
    d.toQuery = .ok q ↔
      d.constants.isConstants = true ∧ checkTables [] d.tables = .ok () ∧
      itemCount d.bare = d.bare.itemIndex.length ∧
      ∃ r, loadJoins d.bare .empty d.joins = .ok r ∧
        checkSelection d.bare [] d.selectedItems = .ok () ∧
        checkSortList d.bare d.selectedItems [] d.orderByItems = .ok () ∧ d.loaded r = q := by
  -- the checks stand in the order of the program, so each failing one ends the reading there
  rw [toQuery]
  by_cases hkind : d.constants.isConstants = true
  · rw [hkind, Bool.not_true, if_neg Bool.false_ne_true]
    cases htables : checkTables [] d.tables with
    | error cause => simp [throw, throwThe, MonadExceptOf.throw]
    | ok _ =>
      by_cases hcount : itemCount d.bare = d.bare.itemIndex.length
      · simp only [hcount, ne_eq, not_true_eq_false, if_false, true_and, bind_eq_ok]
        constructor
        · rintro ⟨r, hjoins, _, hselection, _, hsort, hq⟩
          exact ⟨r, hjoins, hselection, hsort, Except.ok.inj hq⟩
        · rintro ⟨r, hjoins, hselection, hsort, hq⟩
          exact ⟨r, hjoins, (), hselection, (), hsort, congrArg Except.ok hq⟩
      · simp [hcount, throw, throwThe, MonadExceptOf.throw, bind, Except.bind]
  · simp [hkind, throw, throwThe, MonadExceptOf.throw, bind, Except.bind]

/-- **What a document has to fulfil to be accepted.** Where a check looks something up, it does so
in the query with the containers of the document only. -/
structure Passes (d : Document) : Prop where
  /-- The constants container is one. -/
  constants_kind : d.constants.isConstants = true
  /-- The tables are not. -/
  tables_kind : ∀ k ∈ d.tables, k.isConstants = false
  /-- No two tables have the same identity. -/
  tables_nodup : (d.tables.map (·.id)).Nodup
  /-- No two items have the same identity. -/
  items_nodup : (d.items.map (·.id)).Nodup
  /-- The ends of the joins are held. -/
  ends : ∀ j ∈ d.joins, ∀ side, d.bare.holdsEnd (j.atSide side) = true
  /-- The two ends of a join are at different containers. -/
  apart : ∀ j ∈ d.joins, j.left.container ≠ j.right.container
  /-- No two joins have the same identity. -/
  joins_nodup : (d.joins.map (·.id)).Nodup
  /-- The selected items are found. -/
  selected : ∀ x ∈ d.selectedItems, ∃ item, d.bare.item? x = some item
  /-- None is selected twice. -/
  selected_nodup : d.selectedItems.Nodup
  /-- The items of the sort list are found, selected and ordered. -/
  sorted : ∀ x ∈ d.orderByItems, ∃ item, d.bare.item? x = some item ∧ x ∈ d.selectedItems ∧
    item.sortOrder.isOrdered = true
  /-- None is listed twice. -/
  sorted_nodup : d.orderByItems.Nodup

/-- **Which documents are accepted, and what is made of them.** -/
theorem toQuery_eq_ok_iff :
    d.toQuery = .ok q ↔ d.Passes ∧ d.loaded (d.joins.foldl .extend .empty) = q := by
  -- each checker is replaced by what it establishes of its list; the rest only regroups the parts
  simp only [toQuery_eq_ok_iff_steps, checkTables_eq_ok_iff, loadJoins_eq_ok_iff .empty,
    checkSelection_eq_ok_iff, checkSortList_eq_ok_iff, fresh_nil_left]
  constructor
  · rintro ⟨hkind, ⟨htables, htablesNodup⟩, hitems, r, ⟨hjoins, hjoinsNodup, rfl⟩,
      ⟨hselected, hselectedNodup⟩, ⟨hsorted, hsortedNodup⟩, hq⟩
    exact ⟨⟨hkind, htables, htablesNodup, (itemCount_bare_iff htablesNodup).mp hitems,
      fun j hj => (hjoins j hj).1, fun j hj => (hjoins j hj).2, hjoinsNodup.1, hselected,
      hselectedNodup, hsorted, hsortedNodup⟩, hq⟩
  · rintro ⟨h, hq⟩
    exact ⟨h.constants_kind, ⟨h.tables_kind, h.tables_nodup⟩,
      (itemCount_bare_iff h.tables_nodup).mpr h.items_nodup, _,
      ⟨fun j hj => ⟨h.ends j hj, h.apart j hj⟩, fresh_nil_left.mpr h.joins_nodup, rfl⟩,
      ⟨h.selected, h.selected_nodup⟩, ⟨h.sorted, h.sorted_nodup⟩, hq⟩

end Document

end VisualQuery
