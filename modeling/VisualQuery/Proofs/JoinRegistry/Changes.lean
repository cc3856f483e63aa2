import VisualQuery.Proofs.JoinRegistry.Coherent

/-!
# Changes to a registry

Every change to a registry keeps its invariant, and each has one equation that says what it comes
to:

* `Coherent.add_eq` — a new join is put behind the others, with the outer flags of the containers
  that have joins already (`JoinRegistry.forced`);
* `remove?_eq` and `Coherent.removeContainer_eq` — a removed join is filtered out, and the others
  stay as they are;
* `Coherent.setOuter_eq` — the flag of a container is replaced in all joins there
  (`JoinRegistry.setOuterAt`).

In `Coherent.add_eq` and `Coherent.setOuter_eq` the refusal for a join that is listed under a
container it does not touch is gone: the invariant excludes it.
-/

namespace VisualQuery

namespace JoinRegistry

variable {r : JoinRegistry}

/-! ### Registering a join -/

/-- The outer flag of a container, if it has joins. -/
def flagAt (r : JoinRegistry) (c : ContainerId) : Option Bool :=
  (r.joins.filter (·.touches c)).head?.bind fun j =>
    (j.sideOf? c).map fun side => (j.atSide side).outer

theorem Coherent.outerFlag?_eq (h : r.Coherent) (c : ContainerId) :
    r.outerFlag? c = .ok (r.flagAt c) := by
  rw [outerFlag?, h.joinsAt_eq, flagAt]
  cases hh : (r.joins.filter (·.touches c)).head? with
  | none => rfl
  | some j =>
    -- the join is listed at the container, so the look-up of its side cannot fail
    have htouch : j.touches c = true :=
      (List.mem_filter.mp (List.mem_of_mem_head? hh)).2
    obtain ⟨side, hside⟩ := Join.exists_sideOf? htouch
    simp only [listedSide, hside, Option.bind_some, Option.map_some]
    rfl

/-- The flag of a container is the flag of each end there. -/
theorem Coherent.flagAt_eq (h : r.Coherent) {j : Join} (hj : j ∈ r.joins) (side : Side) :
    r.flagAt (j.atSide side).container = some (j.atSide side).outer := by
  rw [flagAt]
  have hmem : j ∈ r.joins.filter (·.touches (j.atSide side).container) :=
    List.mem_filter.mpr ⟨hj, j.touches_atSide side⟩
  cases hh : (r.joins.filter (·.touches (j.atSide side).container)).head? with
  | none =>
    rw [List.head?_eq_none_iff] at hh
    rw [hh] at hmem
    exact absurd hmem List.not_mem_nil
  -- the flag is read off the first join of the container, and all of them agree
  | some k =>
    have hk := List.mem_filter.mp (List.mem_of_mem_head? hh)
    obtain ⟨t, ht⟩ := Join.exists_sideOf? hk.2
    rw [Option.bind_some, ht, Option.map_some,
      h.agree k hk.1 j hj t side (Join.container_of_sideOf? ht)]

theorem flagAt_eq_none {c : ContainerId} (h : ∀ j ∈ r.joins, Join.touches j c = false) :
    r.flagAt c = none := by
  have hnil : r.joins.filter (·.touches c) = [] := by
    rw [List.filter_eq_nil_iff]
    intro j hj
    rw [h j hj]
    exact Bool.false_ne_true
  rw [flagAt, hnil]
  rfl

/-- A join as it is registered: an end at a container that has joins takes over its flag. -/
def forced (r : JoinRegistry) (j : Join) : Join :=
  { j with
    left := { j.left with outer := (r.flagAt j.left.container).getD j.left.outer }
    right := { j.right with outer := (r.flagAt j.right.container).getD j.right.outer } }

@[simp] theorem forced_container (r : JoinRegistry) (j : Join) (side : Side) :
    ((r.forced j).atSide side).container = (j.atSide side).container := by
  cases side <;> rfl

theorem forced_outer (r : JoinRegistry) (j : Join) (side : Side) :
    ((r.forced j).atSide side).outer =
      (r.flagAt (j.atSide side).container).getD (j.atSide side).outer := by
  cases side <;> rfl

/-- The flags of a join that registration changes. -/
def forcedChanges (r : JoinRegistry) (j : Join) : List OuterChange :=
  (forcedChange? j .left (r.flagAt j.left.container)).toList ++
    (forcedChange? j .right (r.flagAt j.right.container)).toList

/-- Making the change that registration asks for on one side sets the flag of that side. -/
theorem foldl_forcedChange? (j k : Join) (side : Side) (flag : Option Bool)
    (hside : k.atSide side = j.atSide side) :
    (forcedChange? j side flag).toList.foldl (fun j change => j.setOuter change.side change.new) k =
      k.setOuter side (flag.getD (j.atSide side).outer) := by
  -- setting a flag to what it is changes nothing, so the missing change is one of those
  have hsame : k.setOuter side (j.atSide side).outer = k := by
    rw [← hside]
    cases side <;> rfl
  cases flag with
  | none =>
    rw [Option.getD_none, hsame]
    rfl
  | some new =>
    rw [forcedChange?, Option.getD_some]
    split
    · next heq =>
      rw [← heq, hsame]
      rfl
    · rfl

theorem foldl_forcedChanges (r : JoinRegistry) (j : Join) :
    (r.forcedChanges j).foldl (fun j change => j.setOuter change.side change.new) j =
      r.forced j := by
  rw [forcedChanges, List.foldl_append, foldl_forcedChange? j j .left _ rfl]
  exact foldl_forcedChange? j _ .right _ rfl

/-- The registry with a join put behind the registered ones. -/
def extend (r : JoinRegistry) (j : Join) : JoinRegistry :=
  { joins := r.joins ++ [r.forced j]
    ids := r.ids ++ [j.id]
    adjacency := (r.adjacency.attach j.id j.left.container).attach j.id j.right.container }

/-- **Registering.** A join is refused if its identity is registered or its ends are at one
container; any other join is put behind the registered ones, with forced flags. -/
theorem Coherent.add_eq (h : r.Coherent) (j : Join) :
    r.add j =
      if j.id ∈ r.ids then .error (.alreadyRegistered j.id)
      else if j.left.container = j.right.container then .error (.selfJoin j.id j.left.container)
      else .ok (r.forcedChanges j, r.extend j) := by
  -- the registry is coherent, so the flag that is looked up is the one all joins agree on
  unfold add
  by_cases hid : j.id ∈ r.ids
  · rw [if_pos hid, if_pos (h.contains_iff.mpr hid)]
    rfl
  · rw [if_neg hid, if_neg (mt h.contains_iff.mp hid)]
    by_cases hc : j.left.container = j.right.container
    · rw [if_pos hc, if_pos hc]
      rfl
    · rw [if_neg hc, if_neg hc, h.outerFlag?_eq, h.outerFlag?_eq, JoinRegistry.extend,
        ← foldl_forcedChanges]
      rfl

/-- A new join supplies the flags of containers that have no joins, and changes no other one. -/
theorem flagAt_extend (r : JoinRegistry) (j : Join) (c : ContainerId) :
    (r.extend j).flagAt c =
      match j.sideOf? c with
      | some side => some ((r.flagAt c).getD (j.atSide side).outer)
      | none => r.flagAt c := by
  have hside : (r.forced j).sideOf? c = j.sideOf? c := rfl
  unfold flagAt
  rw [extend, List.filter_append, List.head?_append]
  cases hhead : (r.joins.filter (·.touches c)).head? with
  | some k =>
    -- the first join at the container stays the first one
    obtain ⟨t, ht⟩ := Join.exists_sideOf? (List.mem_filter.mp (List.mem_of_mem_head? hhead)).2
    rw [Option.some_or, Option.bind_some, ht, Option.map_some]
    cases j.sideOf? c <;> rfl
  | none =>
    have hnone : r.flagAt c = none := by rw [flagAt, hhead, Option.bind_none]
    rw [Option.none_or, Option.bind_none, List.filter_singleton, Join.touches, hside]
    cases hj : j.sideOf? c with
    | none => rfl
    | some side =>
      change ((r.forced j).sideOf? c).map _ = _
      rw [hside, hj, Option.map_some, forced_outer, Join.container_of_sideOf? hj, hnone]

theorem Coherent.listed_extend (h : r.Coherent) {j : Join}
    (hc : j.left.container ≠ j.right.container) (c : ContainerId) :
    (r.extend j).adjacency.lookup c =
      Adjacency.kept (((r.extend j).joins.filter (·.touches c)).map (·.id)) := by
  have hids : ∀ d, r.adjacency.ids d = (r.joins.filter (·.touches d)).map (·.id) := h.idsAt_eq
  rw [extend, List.filter_append, List.map_append, Adjacency.lookup_attach]
  -- the join is listed under its left container first, then under its right one
  by_cases hr : c = j.right.container
  · have htouch : (r.forced j).touches c = true := Join.touches_iff.mpr (Or.inr hr.symm)
    rw [if_pos hr, List.filter_singleton, htouch, Adjacency.ids, Adjacency.lookup_attach,
      if_neg hc.symm, ← Adjacency.ids, hids, hr]
    exact (Adjacency.kept_append_singleton _ _).symm
  · rw [if_neg hr, Adjacency.lookup_attach]
    by_cases hl : c = j.left.container
    · have htouch : (r.forced j).touches c = true := Join.touches_iff.mpr (Or.inl hl.symm)
      rw [if_pos hl, List.filter_singleton, htouch, hids, hl]
      exact (Adjacency.kept_append_singleton _ _).symm
    · have htouch : (r.forced j).touches c = false := by
        rw [Bool.eq_false_iff, Ne, Join.touches_iff]
        rintro (h' | h')
        · exact hl h'.symm
        · exact hr h'.symm
      rw [if_neg hl, List.filter_singleton, htouch, h.listed]
      simp

/-- Registering a new join between two containers keeps the invariant. -/
theorem Coherent.extend (h : r.Coherent) {j : Join} (hid : j.id ∉ r.ids)
    (hc : j.left.container ≠ j.right.container) : (r.extend j).Coherent where
  nodup := by
    show (r.ids ++ [j.id]).Nodup
    refine List.nodup_append.mpr ⟨h.nodup, List.nodup_singleton _, ?_⟩
    rintro a ha b hb rfl
    exact hid (List.mem_singleton.mp hb ▸ ha)
  mapped := by
    show (r.joins ++ [r.forced j]).map (·.id) = r.ids ++ [j.id]
    rw [List.map_append, h.mapped]
    rfl
  keys := Adjacency.nodup_keys_attach (Adjacency.nodup_keys_attach h.keys)
  listed := h.listed_extend hc
  apart := by
    intro k hk
    rcases List.mem_append.mp hk with hk | hk
    · exact h.apart k hk
    · rw [List.mem_singleton.mp hk]
      exact hc
  agree := by
    -- the new end takes over the flag that the other ends at its container have
    have hnew : ∀ k ∈ r.joins, ∀ s t,
        (k.atSide s).container = ((r.forced j).atSide t).container →
          (k.atSide s).outer = ((r.forced j).atSide t).outer := by
      intro k hk s t hst
      rw [forced_outer, ← forced_container r j t, ← hst, h.flagAt_eq hk s, Option.getD_some]
    intro k hk k' hk' s t hst
    rcases List.mem_append.mp hk with hk | hk <;> rcases List.mem_append.mp hk' with hk' | hk'
    · exact h.agree k hk k' hk' s t hst
    · rw [List.mem_singleton.mp hk'] at hst ⊢
      exact hnew k hk s t hst
    · rw [List.mem_singleton.mp hk] at hst ⊢
      exact (hnew k' hk' t s hst.symm).symm
    · rw [List.mem_singleton.mp hk, List.mem_singleton.mp hk'] at hst ⊢
      -- both ends belong to the new join, so they are the same end
      cases s <;> cases t
      · rfl
      · exact absurd hst hc
      · exact absurd hst.symm hc
      · rfl

/-- What is known once a join is registered. -/
theorem Coherent.of_add (h : r.Coherent) {j : Join} {changes : List OuterChange}
    {r' : JoinRegistry} (hadd : r.add j = .ok (changes, r')) :
    changes = r.forcedChanges j ∧ r' = r.extend j ∧ r'.Coherent := by
  rw [h.add_eq] at hadd
  split at hadd
  · exact absurd hadd (by simp)
  · next hid =>
    split at hadd
    · exact absurd hadd (by simp)
    · next hc =>
      obtain ⟨rfl, rfl⟩ := Prod.mk.inj (Except.ok.inj hadd)
      exact ⟨rfl, rfl, h.extend hid hc⟩

/-! ### Taking joins out -/

/-- The registry without one of its joins. -/
def without (r : JoinRegistry) (j : Join) : JoinRegistry :=
  { joins := r.joins.filter (·.id ≠ j.id)
    ids := r.ids.filter (· ≠ j.id)
    adjacency := (r.adjacency.detach j.id j.left.container).detach j.id j.right.container }

theorem remove?_eq (r : JoinRegistry) (id : JoinId) :
    r.remove? id = (r.get? id).map fun j => (j, r.without j) := by
  rw [remove?]
  cases hj : r.get? id with
  | none => rfl
  | some j =>
    obtain ⟨-, rfl⟩ := get?_eq_some hj
    rfl

theorem Coherent.listed_without (h : r.Coherent) {j : Join} (hj : j ∈ r.joins)
    (c : ContainerId) :
    (r.without j).adjacency.lookup c =
      Adjacency.kept (((r.without j).joins.filter (·.touches c)).map (·.id)) := by
  have hids : ∀ d, r.adjacency.ids d = (r.joins.filter (·.touches d)).map (·.id) := h.idsAt_eq
  have hfilter : ((r.without j).joins.filter (·.touches c)).map (·.id) =
      ((r.joins.filter (·.touches c)).map (·.id)).filter (· ≠ j.id) := by
    rw [without, List.filter_filter, List.filter_map, List.filter_filter]
    refine congrArg _ (List.filter_congr fun k _ => ?_)
    rw [Bool.and_comm]
    rfl
  have hkeys : ((r.adjacency.detach j.id j.left.container).map Prod.fst).Nodup :=
    Adjacency.keys_detach_sublist.nodup h.keys
  rw [hfilter, without, Adjacency.lookup_detach hkeys]
  by_cases hr : c = j.right.container
  · rw [if_pos hr, Adjacency.ids, Adjacency.lookup_detach h.keys, if_neg (h.apart j hj).symm,
      ← Adjacency.ids, hids, hr]
  · rw [if_neg hr, Adjacency.lookup_detach h.keys]
    by_cases hl : c = j.left.container
    · rw [if_pos hl, hids, hl]
    · -- the join does not touch the container, so its identity is not listed there
      rw [if_neg hl, h.listed]
      refine congrArg _ (List.filter_eq_self.mpr fun id hid => ?_).symm
      obtain ⟨k, hk, rfl⟩ := List.mem_map.mp hid
      obtain ⟨hkr, hkc⟩ := List.mem_filter.mp hk
      rw [decide_eq_true_iff]
      intro heq
      rw [h.eq_of_id hkr hj heq, Join.touches_iff] at hkc
      rcases hkc with h' | h'
      · exact hl h'.symm
      · exact hr h'.symm

/-- Taking a join out keeps the invariant. -/
theorem Coherent.without (h : r.Coherent) {j : Join} (hj : j ∈ r.joins) :
    (r.without j).Coherent where
  nodup := h.nodup.filter _
  mapped := by
    show (r.joins.filter (·.id ≠ j.id)).map (·.id) = r.ids.filter (· ≠ j.id)
    rw [← h.mapped, List.filter_map]
    rfl
  keys := (Adjacency.keys_detach_sublist.trans Adjacency.keys_detach_sublist).nodup h.keys
  listed := h.listed_without hj
  apart := fun k hk => h.apart k (List.mem_of_mem_filter hk)
  agree := fun k hk k' hk' =>
    h.agree k (List.mem_of_mem_filter hk) k' (List.mem_of_mem_filter hk')

theorem mem_without {j k : Join} : k ∈ (r.without j).joins ↔ k ∈ r.joins ∧ k.id ≠ j.id := by
  rw [JoinRegistry.without, List.mem_filter, decide_eq_true_iff]

/-- **Taking several joins out** returns them in order and leaves the others as they were. -/
theorem Coherent.removeAll_eq (h : r.Coherent) (js : List Join) (hsub : ∀ j ∈ js, j ∈ r.joins)
    (hnd : (js.map (·.id)).Nodup) :
    ∃ r' : JoinRegistry, r.removeAll (js.map (·.id)) = (js, r') ∧ r'.Coherent ∧
      r'.joins = r.joins.filter fun k => k.id ∉ js.map (·.id) := by
  induction js generalizing r with
  | nil => exact ⟨r, rfl, h, (List.filter_eq_self.mpr fun k _ => by simp).symm⟩
  | cons j js ih =>
    rw [List.map_cons, List.nodup_cons] at hnd
    have hj : j ∈ r.joins := hsub j List.mem_cons_self
    -- the joins that are still to be taken out are registered without this one, too
    have hrest : ∀ k ∈ js, k ∈ (r.without j).joins := fun k hk =>
      mem_without.mpr ⟨hsub k (List.mem_cons_of_mem _ hk),
        fun heq => hnd.1 (heq ▸ List.mem_map_of_mem hk)⟩
    obtain ⟨r', hr', hcoh, hjoins⟩ := ih (h.without hj) hrest hnd.2
    refine ⟨r', ?_, hcoh, ?_⟩
    · rw [List.map_cons, removeAll, remove?_eq, h.get?_id hj, Option.map_some]
      simp only [hr']
    · rw [hjoins, JoinRegistry.without, List.filter_filter]
      refine List.filter_congr fun k _ => ?_
      rw [List.map_cons, ← Bool.decide_and, decide_eq_decide, List.mem_cons, not_or, and_comm]

/-- Taking the joins of some kind out leaves the joins that are not of the kind. -/
theorem Coherent.removeFiltered (h : r.Coherent) (p : Join → Bool) :
    (r.removeAll ((r.joins.filter p).map (·.id))).1 = r.joins.filter p ∧
      (r.removeAll ((r.joins.filter p).map (·.id))).2.Coherent ∧
      (r.removeAll ((r.joins.filter p).map (·.id))).2.joins = r.joins.filter (!p ·) := by
  obtain ⟨r', hr', hcoh, hjoins⟩ :=
    h.removeAll_eq (r.joins.filter p) (fun j hj => List.mem_of_mem_filter hj)
      (h.nodup_joins.sublist (List.filter_sublist.map _))
  rw [hr']
  refine ⟨rfl, hcoh, hjoins.trans (List.filter_congr fun k hk => ?_)⟩
  rw [Bool.eq_iff_iff, decide_eq_true_iff, Bool.not_eq_true', ← Bool.not_eq_true, not_iff_not,
    List.mem_map]
  constructor
  · -- identifiers are unique, so filtering by identifier is filtering by the condition
    rintro ⟨k', hk', hid⟩
    obtain ⟨hk'r, hk'p⟩ := List.mem_filter.mp hk'
    rwa [h.eq_of_id hk hk'r hid.symm]
  · intro hkp
    exact ⟨k, List.mem_filter.mpr ⟨hk, hkp⟩, rfl⟩

/-- **Taking the joins at a container out** returns them in the order they were registered. -/
theorem Coherent.removeContainer_eq (h : r.Coherent) (c : ContainerId) :
    (r.removeContainer c).1 = r.joins.filter (·.touches c) ∧ (r.removeContainer c).2.Coherent ∧
      (r.removeContainer c).2.joins = r.joins.filter (!·.touches c) := by
  rw [removeContainer, h.idsAt_eq]
  exact h.removeFiltered (·.touches c)

/-- **Taking the joins at an item out** returns them in the order they were registered. -/
theorem Coherent.removeOfItem_eq (h : r.Coherent) (x : ItemId) :
    (r.removeAll (r.idsOfItem x)).1 = r.joins.filter (·.references x) ∧
      (r.removeAll (r.idsOfItem x)).2.Coherent ∧
      (r.removeAll (r.idsOfItem x)).2.joins = r.joins.filter (!·.references x) := by
  rw [idsOfItem, h.inOrder_eq]
  exact h.removeFiltered (·.references x)

/-! ### Changing joins in place -/

/-- Changing joins in place keeps the invariant, if their identities and containers stay and the
ends at one container still have one outer flag. -/
theorem Coherent.map (h : r.Coherent) {f : Join → Join} (hid : ∀ j, (f j).id = j.id)
    (hcontainer : ∀ j side, ((f j).atSide side).container = (j.atSide side).container)
    (hagree : ∀ j ∈ r.joins, ∀ k ∈ r.joins, ∀ s t,
      (j.atSide s).container = (k.atSide t).container →
        ((f j).atSide s).outer = ((f k).atSide t).outer) :
    ({ r with joins := r.joins.map f } : JoinRegistry).Coherent where
  nodup := h.nodup
  mapped := by
    show (r.joins.map f).map (·.id) = r.ids
    rw [List.map_map, show (fun j : Join => j.id) ∘ f = (·.id) from funext hid]
    exact h.mapped
  keys := h.keys
  listed := by
    intro c
    -- which containers a join touches is kept, and with it the adjacency
    have htouches : ∀ j, (f j).touches c = j.touches c := by
      intro j
      rw [Bool.eq_iff_iff, Join.touches_iff, Join.touches_iff]
      exact Iff.of_eq (congrArg₂ (fun a b => a = c ∨ b = c) (hcontainer j .left)
        (hcontainer j .right))
    rw [h.listed, List.filter_map, List.map_map]
    exact congrArg₂ (fun g js => Adjacency.kept (List.map g js)) (funext fun j => (hid j).symm)
      (List.filter_congr fun j _ => (htouches j).symm)
  apart := by
    intro k hk
    obtain ⟨j, hj, rfl⟩ := List.mem_map.mp hk
    intro heq
    exact h.apart j hj ((hcontainer j .left).symm.trans (heq.trans (hcontainer j .right)))
  agree := by
    intro k hk k' hk' s t hst
    obtain ⟨j, hj, rfl⟩ := List.mem_map.mp hk
    obtain ⟨j', hj', rfl⟩ := List.mem_map.mp hk'
    rw [hcontainer, hcontainer] at hst
    exact hagree j hj j' hj' s t hst

/-- Changing a join keeps the invariant, if its identity and its ends stay. -/
theorem Coherent.modify (h : r.Coherent) (id : JoinId) {f : Join → Join}
    (hf : ∀ j, (f j).id = j.id ∧ (f j).left = j.left ∧ (f j).right = j.right) :
    (r.modify id f).Coherent := by
  have hid : ∀ j, (if j.id = id then f j else j).id = j.id := by
    intro j
    split
    · exact (hf j).1
    · rfl
  -- one join is written and its ends are not, so all ends are as they were
  have hend : ∀ j side, (if j.id = id then f j else j).atSide side = j.atSide side := by
    intro j side
    split
    · cases side with
      | left => exact (hf j).2.1
      | right => exact (hf j).2.2
    · rfl
  refine h.map hid (fun j side => by rw [hend]) (fun j hj k hk s t hst => ?_)
  rw [hend, hend]
  exact h.agree j hj k hk s t hst

end JoinRegistry

/-- The join with the outer flag of its end at a container replaced, if it has one there. -/
def Join.setOuterAt (c : ContainerId) (outer : Bool) (j : Join) : Join :=
  match j.sideOf? c with
  | some side => j.setOuter side outer
  | none => j

theorem Join.setOuterAt_id (c : ContainerId) (outer : Bool) (j : Join) :
    (j.setOuterAt c outer).id = j.id := by
  unfold setOuterAt
  split
  · exact j.setOuter_id _ _
  · rfl

theorem Join.setOuterAt_container (c : ContainerId) (outer : Bool) (j : Join) (side : Side) :
    ((j.setOuterAt c outer).atSide side).container = (j.atSide side).container := by
  unfold setOuterAt
  split
  · exact j.setOuter_container _ _ _
  · rfl

/-- Of a join between two containers, the end at `c` gets the flag and the other one keeps its. -/
theorem Join.setOuterAt_outer (c : ContainerId) (outer : Bool) {j : Join}
    (hj : j.left.container ≠ j.right.container) (side : Side) :
    ((j.setOuterAt c outer).atSide side).outer =
      if (j.atSide side).container = c then outer else (j.atSide side).outer := by
  unfold setOuterAt
  cases hs : j.sideOf? c with
  | none =>
    -- the join has no end at the container
    have hnot : j.touches c = false := by rw [touches, hs]; rfl
    rw [if_neg]
    rintro rfl
    rw [j.touches_atSide side] at hnot
    exact absurd hnot (by simp)
  | some t =>
    have ht := container_of_sideOf? hs
    change ((j.setOuter t outer).atSide side).outer = _
    rw [setOuter_outer, ← ht]
    by_cases hst : side = t
    · rw [hst, if_pos rfl, if_pos rfl]
    · -- the other end is at another container
      rw [if_neg hst, if_neg]
      intro heq
      cases side <;> cases t
      · exact hst rfl
      · exact hj heq
      · exact hj heq.symm
      · exact hst rfl

namespace JoinRegistry

variable {r : JoinRegistry}

/-- The change that gives a join at a container an outer flag, if it has the other one. -/
def outerChange? (c : ContainerId) (outer : Bool) (j : Join) : Option OuterChange :=
  (j.sideOf? c).bind fun side =>
    if (j.atSide side).outer = outer then none
    else some ⟨j.id, side, (j.atSide side).outer, outer⟩

theorem outerChange?_join {c : ContainerId} {outer : Bool} {j : Join} {change : OuterChange}
    (h : outerChange? c outer j = some change) : change.join = j.id := by
  obtain ⟨side, -, hside⟩ := Option.bind_eq_some_iff.mp h
  split at hside
  · exact absurd hside (by simp)
  · rw [← Option.some.inj hside]

/-- Making a list of changes changes each join by itself. -/
theorem foldl_modify_joins (changes : List OuterChange) (r : JoinRegistry) :
    changes.foldl (fun r change =>
        r.modify change.join fun j => j.setOuter change.side change.new) r =
      { r with joins := r.joins.map fun j => changes.foldl (fun j change =>
          if j.id = change.join then j.setOuter change.side change.new else j) j } := by
  induction changes generalizing r with
  | nil => rw [List.foldl_nil, List.map_congr_left fun j _ => List.foldl_nil, List.map_id']
  | cons change changes ih =>
    rw [List.foldl_cons, ih, modify, List.map_map]
    rfl

/-- The changes for joins other than `j` leave `j` alone. -/
theorem foldl_outerChange?_of_notMem (c : ContainerId) (outer : Bool) {ks : List Join} {j : Join}
    (h : j.id ∉ ks.map (·.id)) :
    (ks.filterMap (outerChange? c outer)).foldl (fun j change =>
        if j.id = change.join then j.setOuter change.side change.new else j) j = j := by
  induction ks with
  | nil => rfl
  | cons k ks ih =>
    rw [List.map_cons, List.mem_cons, not_or] at h
    rw [List.filterMap_cons]
    split
    · exact ih h.2
    · next change hchange =>
      rw [List.foldl_cons, outerChange?_join hchange, if_neg h.1]
      exact ih h.2

/-- The changes for a list of joins give each of them the flag. -/
theorem foldl_outerChange? {c : ContainerId} {outer : Bool} {ks : List Join} {j : Join}
    (hj : j ∈ ks) (hnd : (ks.map (·.id)).Nodup) :
    (ks.filterMap (outerChange? c outer)).foldl (fun j change =>
        if j.id = change.join then j.setOuter change.side change.new else j) j =
      j.setOuterAt c outer := by
  induction ks with
  | nil => exact absurd hj List.not_mem_nil
  | cons k ks ih =>
    rw [List.map_cons, List.nodup_cons] at hnd
    rcases List.mem_cons.mp hj with rfl | hj
    · -- the first change is the one for the join, and those behind it are for other joins
      have hid : (j.setOuterAt c outer).id ∉ ks.map (·.id) := by
        rw [Join.setOuterAt_id]
        exact hnd.1
      rw [← foldl_outerChange?_of_notMem c outer hid, List.filterMap_cons]
      unfold outerChange? Join.setOuterAt
      cases hs : j.sideOf? c with
      | none => rfl
      | some side =>
        rw [Option.bind_some]
        by_cases hold : (j.atSide side).outer = outer
        · have hsame : j.setOuter side outer = j := by
            rw [← hold]
            cases side <;> rfl
          rw [if_pos hold]
          simp only [hsame]
        · rw [if_neg hold]
          simp only [List.foldl_cons, if_pos]
    · -- the first change is for another join
      have hne : j.id ≠ k.id := fun heq => hnd.1 (heq ▸ List.mem_map_of_mem hj)
      rw [List.filterMap_cons]
      split
      · exact ih hj hnd.2
      · next change hchange =>
        rw [List.foldl_cons, outerChange?_join hchange, if_neg hne]
        exact ih hj hnd.2

/-- The registry with one outer flag for all joins at a container. -/
def setOuterAt (r : JoinRegistry) (c : ContainerId) (outer : Bool) : JoinRegistry :=
  { r with joins := r.joins.map (·.setOuterAt c outer) }

theorem mapM_listedSide {c : ContainerId} {ks : List Join} (h : ∀ k ∈ ks, Join.touches k c = true) :
    (ks.mapM fun k => (listedSide c k).map fun side => (k, side)) =
      .ok (ks.filterMap fun k => (k.sideOf? c).map fun side => (k, side)) := by
  induction ks with
  | nil => rfl
  | cons k ks ih =>
    -- every listed join has a side there, so the error of the look-up is never met
    obtain ⟨side, hside⟩ := Join.exists_sideOf? (h k List.mem_cons_self)
    have hlisted : listedSide c k = .ok side := by rw [listedSide, hside]
    rw [List.mapM_cons, ih fun k' hk' => h k' (List.mem_cons_of_mem _ hk'), hlisted,
      List.filterMap_cons, hside]
    rfl

/-- The joins at a container that do not have the flag are those that have to be changed. -/
theorem filterMap_outerChange? (c : ContainerId) (outer : Bool) {ks : List Join}
    {change : Join × Side → Option OuterChange}
    (hchange : ∀ k side, change (k, side) =
      if (k.atSide side).outer = outer then none
      else some ⟨k.id, side, (k.atSide side).outer, outer⟩) :
    ((ks.filter (·.touches c)).filterMap fun k =>
      (k.sideOf? c).map fun side => (k, side)).filterMap change =
      ks.filterMap (outerChange? c outer) := by
  -- three passes over the joins become one, which is then compared join by join
  rw [List.filterMap_filterMap, ← List.filterMap_eq_filter, List.filterMap_filterMap]
  refine List.filterMap_congr fun k _ => ?_
  cases hs : k.sideOf? c with
  | none =>
    rw [outerChange?, hs, Option.guard, Join.touches, hs]
    rfl
  | some t =>
    rw [outerChange?, hs, Option.guard, Join.touches, hs]
    simp [hs, hchange]

/-- Making the changes for a container gives all joins at it the flag. -/
theorem Coherent.foldl_outerChanges (h : r.Coherent) (c : ContainerId) (outer : Bool) :
    (r.joins.filterMap (outerChange? c outer)).foldl (fun r change =>
        r.modify change.join fun j => j.setOuter change.side change.new) r =
      r.setOuterAt c outer := by
  have hjoins : (r.joins.map fun k => (r.joins.filterMap (outerChange? c outer)).foldl
        (fun j change => if j.id = change.join then j.setOuter change.side change.new else j) k) =
      r.joins.map (·.setOuterAt c outer) :=
    List.map_congr_left fun k hk => foldl_outerChange? hk h.nodup_joins
  rw [foldl_modify_joins, hjoins, setOuterAt]

/-- **Setting an outer flag** sets it for all joins at the container there. -/
theorem Coherent.setOuter_eq (h : r.Coherent) {j : Join} (hj : j ∈ r.joins) (side : Side)
    (outer : Bool) :
    r.setOuter j.id side outer =
      .ok (r.joins.filterMap (outerChange? (j.atSide side).container outer),
        r.setOuterAt (j.atSide side).container outer) := by
  rw [setOuter, h.get?_id hj]
  dsimp only
  -- from here on only the container matters, not the join that named it
  generalize hc : (j.atSide side).container = c
  rw [h.joinsAt_eq, mapM_listedSide fun k hk => (List.mem_filter.mp hk).2]
  dsimp only
  rw [filterMap_outerChange? c outer fun _ _ => rfl, h.foldl_outerChanges]

theorem setOuter_of_none {id : JoinId} (h : r.get? id = none) (side : Side)
    (outer : Bool) : r.setOuter id side outer = .error (.unknownJoin id) := by
  rw [setOuter, h]

/-- Setting the flag of a container keeps the invariant. -/
theorem Coherent.setOuterAt (h : r.Coherent) (c : ContainerId) (outer : Bool) :
    (r.setOuterAt c outer).Coherent := by
  refine h.map (Join.setOuterAt_id c outer) (Join.setOuterAt_container c outer) ?_
  intro j hj k hk s t hst
  rw [Join.setOuterAt_outer c outer (h.apart j hj), Join.setOuterAt_outer c outer (h.apart k hk),
    hst]
  by_cases hc : (k.atSide t).container = c
  · rw [if_pos hc, if_pos hc]
  · rw [if_neg hc, if_neg hc, h.agree j hj k hk s t hst]

end JoinRegistry

end VisualQuery
