import VisualQuery.JoinRegistry
import VisualQuery.Proofs.Keyed

/-!
# The registry invariant

A registry keeps the same joins three times: in the map from identities to joins, as identities in
the order of registration, and under each container that they touch. Each change updates the three
one by one. `JoinRegistry.Coherent` says that they agree, that no join leads from a container to
itself, and that every container has one outer flag. With it the registration order is that of the
map (`Coherent.inOrder_eq`), and the look-ups by container become filters of the registered joins:

* `Coherent.joinsAt_eq` — the joins at a container are the registered ones that touch it;
* `Coherent.joinsBetween_eq` — the joins between two containers are the ones that connect them;
* `Coherent.areJoined_iff` — two containers are joined if some registered join connects them.

The check `JoinRegistry.isConsistent` accepts every registry with the invariant
(`Coherent.isConsistent`); it asks for less, since it says nothing about the order of the lists.

The index is a list of entries. `Adjacency.lookup_attach` and `Adjacency.lookup_detach` say what its
two changes do to the entry of a container, which is all that is ever asked of it.
-/

namespace VisualQuery

/-! ### The index -/

namespace Adjacency

variable {index : Adjacency} {id : JoinId} {c d : ContainerId} {ids : List JoinId}

/-- The list of joins under a container as the index keeps it: an empty list is not kept. -/
def kept : List JoinId → Option (List JoinId)
  | [] => none
  | ids => some ids

@[simp] theorem getD_kept (ids : List JoinId) : (kept ids).getD [] = ids := by
  cases ids <;> rfl

theorem kept_append_singleton (ids : List JoinId) (id : JoinId) :
    kept (ids ++ [id]) = some (ids ++ [id]) := by
  cases ids <;> rfl

/-- Listing a join changes the list of its container only. -/
theorem lookup_attach (index : Adjacency) (id : JoinId) (c d : ContainerId) :
    (index.attach id c).lookup d =
      if d = c then some (index.ids c ++ [id]) else index.lookup d := by
  induction index with
  | nil =>
    rw [attach]
    by_cases hdc : d = c
    · subst hdc
      rw [List.lookup_cons_self, if_pos rfl]
      rfl
    · rw [Keyed.lookup_cons_of_ne hdc, if_neg hdc]
  | cons entry rest ih =>
    obtain ⟨e, ids⟩ := entry
    rw [attach]
    by_cases hec : e = c
    · -- the container has joins already, so its list grows
      subst hec
      rw [if_pos rfl]
      by_cases hde : d = e
      · subst hde
        rw [if_pos rfl, List.lookup_cons_self, Adjacency.ids, List.lookup_cons_self,
          Option.getD_some]
      · rw [if_neg hde, Keyed.lookup_cons_of_ne hde, Keyed.lookup_cons_of_ne hde]
    · rw [if_neg hec]
      by_cases hde : d = e
      · subst hde
        rw [List.lookup_cons_self, List.lookup_cons_self, if_neg hec]
      · rw [Keyed.lookup_cons_of_ne hde, Keyed.lookup_cons_of_ne hde, ih, Adjacency.ids,
          Adjacency.ids, Keyed.lookup_cons_of_ne (Ne.symm hec)]

theorem mem_keys_attach :
    d ∈ (index.attach id c).map Prod.fst ↔ d = c ∨ d ∈ index.map Prod.fst := by
  induction index with
  | nil => simp [attach]
  | cons entry rest ih =>
    obtain ⟨e, ids⟩ := entry
    rw [attach]
    split
    · next h => subst h; simp
    · simp only [List.map_cons, List.mem_cons, ih]
      tauto

theorem nodup_keys_attach (h : (index.map Prod.fst).Nodup) :
    ((index.attach id c).map Prod.fst).Nodup := by
  induction index with
  | nil => simp [attach]
  | cons entry rest ih =>
    obtain ⟨e, ids⟩ := entry
    rw [List.map_cons, List.nodup_cons] at h
    rw [attach]
    split
    · exact List.nodup_cons.mpr h
    · -- a new key is put at the end, and only if it was met nowhere before
      next hec =>
      refine List.nodup_cons.mpr ⟨?_, ih h.2⟩
      rw [mem_keys_attach]
      rintro (hc | hmem)
      · exact hec hc
      · exact h.1 hmem

theorem keys_detach_sublist :
    ((index.detach id c).map Prod.fst).Sublist (index.map Prod.fst) := by
  induction index with
  | nil => exact List.Sublist.slnil
  | cons entry rest ih =>
    obtain ⟨e, ids⟩ := entry
    rw [detach]
    split
    · split
      · exact List.sublist_cons_self _ _
      · exact List.Sublist.refl _
    · exact ih.cons_cons _

/-- Taking a join off the list of its container changes that list only, which is dropped when it
runs empty. -/
theorem lookup_detach (h : (index.map Prod.fst).Nodup) :
    (index.detach id c).lookup d =
      if d = c then kept ((index.ids c).filter (· ≠ id)) else index.lookup d := by
  induction index with
  | nil =>
    rw [detach]
    simp [ids, kept]
  | cons entry rest ih =>
    obtain ⟨e, ids⟩ := entry
    rw [List.map_cons, List.nodup_cons] at h
    rw [detach]
    by_cases hec : e = c
    · subst hec
      rw [if_pos rfl, Adjacency.ids, List.lookup_cons_self, Option.getD_some]
      by_cases hde : d = e
      · subst hde
        rw [if_pos rfl]
        split
        -- with its last join the container is dropped, and it is not listed a second time
        · next hnil => rw [hnil, Keyed.lookup_eq_none_iff.mpr h.1]; rfl
        · next hne =>
          rw [List.lookup_cons_self]
          cases hf : ids.filter (· ≠ id) with
          | nil => exact absurd hf hne
          | cons a as => rfl
      · rw [if_neg hde, Keyed.lookup_cons_of_ne hde]
        split
        · rfl
        · rw [Keyed.lookup_cons_of_ne hde]
    · rw [if_neg hec, Adjacency.ids, Keyed.lookup_cons_of_ne (Ne.symm hec)]
      by_cases hde : d = e
      · subst hde
        rw [List.lookup_cons_self, List.lookup_cons_self, if_neg hec]
      · rw [Keyed.lookup_cons_of_ne hde, Keyed.lookup_cons_of_ne hde, ih h.2]
        rfl

end Adjacency

/-! ### The ends of a join -/

namespace Join

theorem touches_iff {j : Join} {c : ContainerId} :
    j.touches c = true ↔ j.left.container = c ∨ j.right.container = c := by
  unfold touches sideOf?
  split
  · next h => simp [h]
  · next h =>
    split
    · next h' => simp [h']
    · next h' => simp [h, h']

theorem connects_iff {j : Join} {a b : ContainerId} :
    j.connects a b = true ↔
      (j.left.container = a ∧ j.right.container = b) ∨
        (j.left.container = b ∧ j.right.container = a) := by
  simp [connects]

theorem touches_of_connects {j : Join} {a b : ContainerId} (h : j.connects a b = true) :
    j.touches a = true := by
  rw [connects_iff] at h
  rw [touches_iff]
  rcases h with h | h
  · exact Or.inl h.1
  · exact Or.inr h.2

theorem container_of_sideOf? {j : Join} {c : ContainerId} {side : Side}
    (h : j.sideOf? c = some side) : (j.atSide side).container = c := by
  unfold sideOf? at h
  split at h
  · next hl =>
    obtain rfl := Option.some.inj h
    exact hl
  · split at h
    · next hr =>
      obtain rfl := Option.some.inj h
      exact hr
    · exact absurd h (by simp)

/-- A join that touches a container has a side there. -/
theorem exists_sideOf? {j : Join} {c : ContainerId} (h : j.touches c = true) :
    ∃ side, j.sideOf? c = some side :=
  Option.isSome_iff_exists.mp h

theorem touches_atSide (j : Join) (side : Side) : j.touches (j.atSide side).container = true := by
  rw [touches_iff]
  cases side with
  | left => exact Or.inl rfl
  | right => exact Or.inr rfl

@[simp] theorem setOuter_id (j : Join) (side : Side) (outer : Bool) :
    (j.setOuter side outer).id = j.id := by
  cases side <;> rfl

@[simp] theorem setOuter_container (j : Join) (side s : Side) (outer : Bool) :
    ((j.setOuter side outer).atSide s).container = (j.atSide s).container := by
  cases side <;> cases s <;> rfl

theorem setOuter_outer (j : Join) (side s : Side) (outer : Bool) :
    ((j.setOuter side outer).atSide s).outer = if s = side then outer else (j.atSide s).outer := by
  cases side <;> cases s <;> rfl

end Join

/-! ### The invariant -/

namespace JoinRegistry

/-- **The registry invariant.** The registration order names exactly the joins of the map, each
once, the index holds exactly the joins at each container, no join leads from a container to itself,
and all joins at a container agree on its outer flag. -/
structure Coherent (r : JoinRegistry) : Prop where
  /-- No identity is registered twice. -/
  nodup : r.ids.Nodup
  /-- The map holds the joins that the registration order names, in that order. -/
  mapped : r.joins.map (·.id) = r.ids
  /-- The index lists each container once. -/
  keys : (r.adjacency.map Prod.fst).Nodup
  /-- Under each container the index lists the joins there in the order they were registered. -/
  listed : ∀ c, r.adjacency.lookup c = Adjacency.kept ((r.joins.filter (·.touches c)).map (·.id))
  /-- The two ends of a join are at different containers. -/
  apart : ∀ j ∈ r.joins, j.left.container ≠ j.right.container
  /-- Ends at one container have one outer flag. -/
  agree : ∀ j ∈ r.joins, ∀ k ∈ r.joins, ∀ s t,
    (j.atSide s).container = (k.atSide t).container → (j.atSide s).outer = (k.atSide t).outer

theorem Coherent.empty : Coherent .empty where
  nodup := List.nodup_nil
  mapped := rfl
  keys := List.nodup_nil
  listed := fun _ => rfl
  apart := fun _ h => absurd h List.not_mem_nil
  agree := fun _ h => absurd h List.not_mem_nil

variable {r : JoinRegistry}

/-- A registry without joins has an empty order and an empty index. -/
theorem Coherent.eq_empty (h : r.Coherent) (hjoins : r.joins = []) : r = .empty := by
  have horder : r.ids = [] := by rw [← h.mapped, hjoins, List.map_nil]
  have hindex : r.adjacency = [] := by
    refine Keyed.eq_nil_of_lookup fun c => ?_
    rw [h.listed, hjoins]
    rfl
  obtain ⟨joins, ids, adjacency⟩ := r
  subst hjoins horder hindex
  rfl

/-! ### Looking joins up -/

theorem Coherent.idsAt_eq (h : r.Coherent) (c : ContainerId) :
    r.idsAt c = (r.joins.filter (·.touches c)).map (·.id) := by
  rw [idsAt, Adjacency.ids, h.listed, Adjacency.getD_kept]

/-- No two joins of the map have the same identity. -/
theorem Coherent.nodup_joins (h : r.Coherent) : (r.joins.map (·.id)).Nodup := h.mapped ▸ h.nodup

/-- Joins with the same identity are the same join. -/
theorem Coherent.eq_of_id (h : r.Coherent) {j k : Join} (hj : j ∈ r.joins) (hk : k ∈ r.joins)
    (hid : j.id = k.id) : j = k :=
  List.inj_on_of_nodup_map h.nodup_joins hj hk hid

/-- The registration order names an identity if the map holds a join with it. -/
theorem Coherent.mem_ids (h : r.Coherent) {id : JoinId} :
    id ∈ r.ids ↔ ∃ j ∈ r.joins, j.id = id := by
  rw [← h.mapped, List.mem_map]

theorem get?_eq_some {id : JoinId} {j : Join} (hj : r.get? id = some j) :
    j ∈ r.joins ∧ j.id = id :=
  Keyed.find?_eq_some hj

theorem Coherent.get?_id (h : r.Coherent) {j : Join} (hj : j ∈ r.joins) :
    r.get? j.id = some j :=
  (Keyed.find?_eq_some_iff h.nodup_joins).mpr ⟨hj, rfl⟩

theorem Coherent.get?_eq_none_iff (h : r.Coherent) {id : JoinId} :
    r.get? id = none ↔ id ∉ r.ids := by
  rw [← h.mapped]
  exact Keyed.find?_eq_none_iff

/-- The map has an entry for exactly the identities that the registration order names. -/
theorem Coherent.contains_iff (h : r.Coherent) {id : JoinId} :
    r.contains id = true ↔ id ∈ r.ids := by
  rw [contains, ← not_iff_not, Bool.not_eq_true, Option.isSome_eq_false_iff,
    Option.isNone_iff_eq_none, h.get?_eq_none_iff]

/-- A join that the registration order leads to is one of the map. -/
theorem mem_of_mem_inOrder {j : Join} (hj : j ∈ r.inOrder) : j ∈ r.joins := by
  obtain ⟨id, -, hid⟩ := List.mem_filterMap.mp hj
  exact (get?_eq_some hid).1

/-- Going through the registration order and looking each identity up gives the joins. -/
theorem Coherent.inOrder_eq (h : r.Coherent) : r.inOrder = r.joins := by
  rw [inOrder, ← h.mapped]
  exact Keyed.filterMap_find? h.nodup_joins

/-- The joins at a container are the registered ones that touch it, in their order. -/
theorem Coherent.joinsAt_eq (h : r.Coherent) (c : ContainerId) :
    r.joinsAt c = r.joins.filter (·.touches c) := by
  rw [joinsAt, h.idsAt_eq, List.filterMap_map]
  have hget : ∀ j ∈ r.joins.filter (·.touches c), (r.get? ∘ (·.id)) j = some j :=
    fun j hj => h.get?_id (List.mem_of_mem_filter hj)
  rw [List.filterMap_congr hget, List.filterMap_some]

theorem Coherent.joinsBetween_eq (h : r.Coherent) (a b : ContainerId) :
    r.joinsBetween a b = r.joins.filter (·.connects a b) := by
  rw [joinsBetween, h.joinsAt_eq, List.filter_filter]
  refine List.filter_congr fun j _ => ?_
  cases hc : j.connects a b with
  | false => rfl
  | true => rw [Join.touches_of_connects hc, Bool.and_self]

theorem Coherent.areJoined_iff (h : r.Coherent) (a b : ContainerId) :
    r.areJoined a b = true ↔ ∃ j ∈ r.joins, j.connects a b = true := by
  rw [areJoined, h.joinsBetween_eq, Bool.not_eq_true', List.isEmpty_eq_false_iff_exists_mem]
  simp only [List.mem_filter]

/-! ### Consistency -/

theorem Coherent.count_idsAt (h : r.Coherent) {j : Join} (hj : j ∈ r.joins) (side : Side) :
    (r.idsAt (j.atSide side).container).count j.id = 1 := by
  rw [h.idsAt_eq]
  refine List.count_eq_one_of_mem (h.nodup_joins.sublist (List.filter_sublist.map _)) ?_
  exact List.mem_map_of_mem (List.mem_filter.mpr ⟨hj, j.touches_atSide side⟩)

theorem Coherent.eq_of_mem_adjacency (h : r.Coherent) {c : ContainerId} {ids : List JoinId}
    (hmem : (c, ids) ∈ r.adjacency) : ids = (r.joins.filter (·.touches c)).map (·.id) := by
  have hlookup : r.adjacency.lookup c = some ids := (Keyed.lookup_eq_some_iff h.keys).mpr hmem
  rw [← h.idsAt_eq, idsAt, Adjacency.ids, hlookup, Option.getD_some]

theorem Coherent.listsRightly (h : r.Coherent) (c : ContainerId) :
    r.listsRightly c ((r.joins.filter (·.touches c)).map (·.id)) = true := by
  have hflags : ((r.joins.filter (·.touches c)).map (·.id)).filterMap (fun id =>
        (r.get? id).bind fun j => (j.sideOf? c).map fun side => (j.atSide side).outer) =
      (r.joins.filter (·.touches c)).filterMap fun j =>
        (j.sideOf? c).map fun side => (j.atSide side).outer := by
    rw [List.filterMap_map]
    refine List.filterMap_congr fun j hj => ?_
    rw [Function.comp_apply, h.get?_id (List.mem_of_mem_filter hj), Option.bind_some]
  rw [JoinRegistry.listsRightly, hflags, Bool.and_eq_true, List.all_eq_true, List.all_eq_true]
  constructor
  · -- the flag of each join is the one of the first
    intro flag hflag
    obtain ⟨j, hj, hjflag⟩ := List.mem_filterMap.mp hflag
    obtain ⟨s, hs, rfl⟩ := Option.map_eq_some_iff.mp hjflag
    rw [beq_iff_eq]
    cases hhead : ((r.joins.filter (·.touches c)).filterMap fun j =>
        (j.sideOf? c).map fun side => (j.atSide side).outer).head? with
    | none =>
      -- there is a flag, so there is a first one
      rw [List.head?_eq_none_iff] at hhead
      rw [hhead] at hflag
      exact absurd hflag List.not_mem_nil
    | some flag' =>
      obtain ⟨k, hk, hkflag⟩ := List.mem_filterMap.mp (List.mem_of_mem_head? hhead)
      obtain ⟨t, ht, rfl⟩ := Option.map_eq_some_iff.mp hkflag
      rw [h.agree k (List.mem_of_mem_filter hk) j (List.mem_of_mem_filter hj) t s
        ((Join.container_of_sideOf? ht).trans (Join.container_of_sideOf? hs).symm)]
  · -- every listed join is registered and touches the container
    intro id hid
    obtain ⟨j, hj, rfl⟩ := List.mem_map.mp hid
    obtain ⟨hjr, hjc⟩ := List.mem_filter.mp hj
    rw [h.get?_id hjr, Option.map_some, Option.getD_some, hjc]

/-- The consistency check accepts every registry with the invariant. -/
theorem Coherent.isConsistent (h : r.Coherent) : r.isConsistent = true := by
  rw [JoinRegistry.isConsistent, Bool.and_eq_true, List.all_eq_true, List.all_eq_true]
  constructor
  · intro j hj
    rw [listsOnce, Bool.and_eq_true, beq_iff_eq, beq_iff_eq]
    exact ⟨h.count_idsAt hj .left, h.count_idsAt hj .right⟩
  · rintro ⟨c, ids⟩ hmem
    rw [h.eq_of_mem_adjacency hmem]
    exact h.listsRightly c

end JoinRegistry

end VisualQuery
