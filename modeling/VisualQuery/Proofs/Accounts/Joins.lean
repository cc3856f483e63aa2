import VisualQuery.Proofs.Accounts.Recounts
import VisualQuery.Proofs.Query.Joins
import VisualQuery.Proofs.Query.Removing

/-!
# Changes to joins are accounted for

Setting an outer flag and taking all joins of a table away change several joins at once and announce
them afterwards. Here each of these changes is made by itself, on the registry alone, with the
registries in between that nobody sees (`Query.recounts_outerChanges`, `Query.recounts_removeAll`).

A join that is added starts with the outer flags that the tables at its ends have already, whatever
it was passed with (`Query.tells_extend`).
-/

namespace VisualQuery

open Change

/-! ### The registry -/

namespace JoinRegistry

variable {r : JoinRegistry}

theorem get?_modify {f : Join → Join} (hf : ∀ j, (f j).id = j.id) (r : JoinRegistry)
    (id i : JoinId) :
    (r.modify id f).get? i = (r.get? i).map fun j => if j.id = id then f j else j := by
  have hid : ∀ j : Join, (if j.id = id then f j else j).id = j.id := by
    intro j
    split
    · exact hf j
    · rfl
  rw [modify, get?, List.find?_map, get?]
  congr 2
  funext j
  rw [Function.comp_apply, hid]

/-- A join that is found once another one is taken out was found before. -/
theorem get?_of_without {j k : Join} {i : JoinId} (h : (r.without j).get? i = some k) :
    r.get? i = some k := by
  obtain ⟨hmem, hid⟩ := get?_eq_some h
  have hne : i ≠ j.id := hid ▸ (mem_without.mp hmem).2
  rw [← h, get?, without, get?, List.find?_filter]
  congr 1
  funext k
  by_cases hk : k.id = i
  · simp [hk, hne]
  · simp [hk]

/-- The flags that are to be changed are what the joins have. -/
theorem Coherent.outerChanges_old (h : r.Coherent) (c : ContainerId) (outer : Bool) :
    ∀ change ∈ r.joins.filterMap (outerChange? c outer), ∃ k, r.get? change.join = some k ∧
      (k.atSide change.side).outer = change.old := by
  intro change hchange
  obtain ⟨k, hk, hkc⟩ := List.mem_filterMap.mp hchange
  obtain ⟨side, -, hside⟩ := Option.bind_eq_some_iff.mp hkc
  split at hside
  · exact absurd hside (by simp)
  · obtain rfl := Option.some.inj hside
    exact ⟨k, h.get?_id hk, rfl⟩

theorem Coherent.outerChanges_nodup (h : r.Coherent) (c : ContainerId) (outer : Bool) :
    ((r.joins.filterMap (outerChange? c outer)).map (·.join)).Nodup := by
  have hids : r.joins.Pairwise fun j k => j.id ≠ k.id := List.pairwise_map.mp h.nodup_joins
  refine List.pairwise_map.mpr (List.pairwise_filterMap.mpr (hids.imp fun hne change hj => ?_))
  intro change' hk
  rw [outerChange?_join hj, outerChange?_join hk]
  exact hne

end JoinRegistry

namespace Query

variable {e : Edit} {start q : Query} {r : JoinRegistry}

/-! ### One change after the other -/

/-- A join is changed in place. -/
theorem tells_modifyJoin {j : Join} (hj : r.get? j.id = some j) {f : Join → Join}
    (hid : ∀ k, (f k).id = k.id) {p : Property} {old new : PropertyValue}
    (hold : j.value? p = some old) (hnew : (f j).value? p = some new)
    (hother : ∀ p', p' ≠ p → (f j).value? p' = j.value? p') :
    Tells e start { q with joins := r } (.joinChanged ⟨j.id, p, old, new⟩)
      { q with joins := r.modify j.id f } := by
  have hself : (r.modify j.id f).get? j.id = some (f j) := by
    rw [JoinRegistry.get?_modify hid, hj, Option.map_some, if_pos rfl]
  refine .of_change rfl rfl rfl ?_ (fun v hv => ?_) fun t p' v hne hv => ?_
  · change (r.get? j.id).bind (·.value? p) = some old
    rw [hj]
    exact hold
  · change ((r.modify j.id f).get? j.id).bind (·.value? p) = some v at hv
    rw [hself] at hv
    exact Option.some.inj (hv.symm.trans hnew)
  · cases t with
    | query | container | item => exact hv
    | join i =>
      change ((r.modify j.id f).get? i).bind (·.value? p') = some v at hv
      change (r.get? i).bind (·.value? p') = some v
      by_cases hi : i = j.id
      · -- another property of the join that changes
        subst hi
        rw [hself, Option.bind_some, hother p' fun hp => hne ⟨rfl, hp⟩] at hv
        rw [hj]
        exact hv
      · rw [JoinRegistry.get?_modify hid] at hv
        cases hk : r.get? i with
        | none =>
          rw [hk] at hv
          exact absurd hv (by simp)
        | some k =>
          have hki : k.id ≠ j.id := (JoinRegistry.get?_eq_some hk).2 ▸ hi
          rw [hk, Option.map_some, if_neg hki] at hv
          exact hv

theorem tells_without (j : Join) :
    Tells e start { q with joins := r } (.joinRemoved j) { q with joins := r.without j } := by
  refine .of_loss rfl rfl rfl rfl fun t p v hv => ?_
  cases t with
  | query | container | item => exact hv
  | join i =>
    obtain ⟨k, hk, hkv⟩ := Option.bind_eq_some_iff.mp hv
    exact Option.bind_eq_some_iff.mpr ⟨k, JoinRegistry.get?_of_without hk, hkv⟩

theorem recounts_removeAll (ids : List JoinId) (r : JoinRegistry) :
    Recounts e start { q with joins := r } ((r.removeAll ids).1.map .joinRemoved)
      { q with joins := (r.removeAll ids).2 } := by
  induction ids generalizing r with
  | nil => exact .nil rfl
  | cons id ids ih =>
    rw [JoinRegistry.removeAll, JoinRegistry.remove?_eq]
    cases r.get? id with
    | none => exact ih r
    | some j => exact .cons (tells_without j) (ih (r.without j))

variable (e start q) in
/-- Outer flags are changed one by one, each of another join. -/
theorem recounts_outerChanges {changes : List OuterChange} {r : JoinRegistry}
    (hold : ∀ change ∈ changes, ∃ k, r.get? change.join = some k ∧
      (k.atSide change.side).outer = change.old)
    (hnd : (changes.map (·.join)).Nodup) :
    Recounts e start { q with joins := r } (changes.map outerEvent)
      { q with joins := changes.foldl (fun r change =>
        r.modify change.join fun j => j.setOuter change.side change.new) r } := by
  induction changes generalizing r with
  | nil => exact .nil rfl
  | cons change changes ih =>
    rw [List.map_cons, List.nodup_cons] at hnd
    obtain ⟨k, hk, hflag⟩ := hold change List.mem_cons_self
    obtain ⟨id, side, old, new⟩ := change
    obtain ⟨-, rfl⟩ : _ ∧ k.id = id := JoinRegistry.get?_eq_some hk
    have hid : ∀ j : Join, (j.setOuter side new).id = j.id := fun j => j.setOuter_id side new
    let next := r.modify k.id fun j => j.setOuter side new
    refine .cons ?_ (ih (r := next) (fun other hc => ?_) hnd.2)
    · change (k.atSide side).outer = old at hflag
      subst hflag
      cases side <;> refine tells_modifyJoin hk hid rfl rfl fun p hp => ?_
      all_goals cases p <;> first | rfl | exact absurd rfl hp
    · -- the flags that are still to be changed belong to other joins
      obtain ⟨k', hk', hflag'⟩ := hold other (List.mem_cons_of_mem _ hc)
      have hne : k'.id ≠ k.id := by
        rw [(JoinRegistry.get?_eq_some hk').2]
        exact fun heq => hnd.1 (List.mem_map.mpr ⟨other, hc, heq⟩)
      refine ⟨k', ?_, hflag'⟩
      rw [JoinRegistry.get?_modify hid, hk', Option.map_some, if_neg hne]

/-! ### Adding a join -/

/-- A join is put behind the others, with the outer flags that the tables have. -/
theorem Coherent.tells_extend (h : q.Coherent) {j : Join} (hj : j.id ∉ q.joins.ids)
    (he : e.join? q = some j) :
    Tells e q q (.joinAdded j.id) { q with joins := q.joins.extend j } := by
  refine .of_addition rfl rfl rfl fun t p v hv => ?_
  cases t with
  | query => exact .inr ⟨fun hadds => hadds, hv⟩
  | container | item => exact .inr ⟨by simp [Edit.adds], hv⟩
  | join i =>
    obtain ⟨k, hget, hk⟩ := Option.bind_eq_some_iff.mp hv
    have hfound : (q.joins.joins ++ [q.joins.forced j]).find? (·.id = i) = some k := hget
    rw [List.find?_append, Option.or_eq_some_iff] at hfound
    rcases hfound with hfound | ⟨-, hfound⟩
    · -- the join was there before, so it is another one
      refine .inr ⟨fun hadds => hj ?_, Option.bind_eq_some_iff.mpr ⟨k, hfound, hk⟩⟩
      obtain ⟨hmem, hid⟩ := JoinRegistry.get?_eq_some hfound
      exact h.joins.mem_ids.mpr ⟨k, hmem, hid.trans (Event.joinAdded.inj hadds).symm⟩
    · obtain ⟨hmem, rfl⟩ := Keyed.find?_eq_some hfound
      obtain rfl := List.mem_singleton.mp hmem
      refine .inl ⟨rfl, ?_⟩
      have hsame : (some j).filter (·.id = (q.joins.forced j).id) = some j := by
        rw [Option.filter_some]
        exact if_pos (decide_eq_true rfl)
      rw [Edit.given, he, hsame]
      exact hk

theorem Coherent.accounted_addJoin (h : q.Coherent) {j : Join} (he : e.join? q = some j) :
    Accounted e q q (Query.addJoin j q) := by
  have hcoh := h.addJoin j
  rw [addJoin_apply] at hcoh ⊢
  cases hl : q.endError? j.id j.left with
  | some cause => exact .of_refused h _
  | none =>
    cases hr : q.endError? j.id j.right with
    | some cause => exact .of_refused h _
    | none =>
      cases hadd : q.joins.add j with
      | error cause => exact .of_refused h _
      | ok added =>
        obtain ⟨changes, joins⟩ := added
        -- the join was accepted, so it is a new one
        have hid : j.id ∉ q.joins.ids := by
          intro hid
          rw [h.joins.add_eq, if_pos hid] at hadd
          exact absurd hadd (by simp)
        obtain ⟨-, rfl, -⟩ := h.joins.of_add hadd
        rw [hl, hr, hadd] at hcoh
        exact .of_announced (h.tells_extend hid he)
          (hcoh.congr rfl rfl rfl rfl rfl rfl rfl hcoh.globalWhere)

theorem Coherent.accounted_joinItems (h : q.Coherent) (id : JoinId) (left right : ItemId) :
    Accounted (.joinItems id left right) q q (Query.joinItems id left right q) := by
  rw [Query.joinItems, get_bind]
  -- each of the two items is looked up, and the join is added between the containers found
  cases hl : q.itemIndex.get? left with
  | none =>
    rw [bind_of_refused (need_none _ q)]
    exact .of_refused h _
  | some leftContainer =>
    rw [bind_of_silent (need_some _ _ q), get_bind]
    cases hr : q.itemIndex.get? right with
    | none =>
      rw [bind_of_refused (need_none _ q)]
      exact .of_refused h _
    | some rightContainer =>
      rw [bind_of_silent (need_some _ _ q)]
      refine h.accounted_addJoin ?_
      rw [Edit.join?, hl, hr]
      rfl

/-! ### Changes to joins -/

theorem Coherent.accounted_setJoinProperty {β : Type} [DecidableEq β] (h : q.Coherent)
    (id : JoinId) (property : Property) {read : Join → β} {write : β → Join → Join}
    {show' : β → PropertyValue} {new : β}
    (hwrite : ∀ j, (write new j).id = j.id ∧ (write new j).left = j.left ∧
      (write new j).right = j.right)
    (hread : ∀ j, j.value? property = some (show' (read j))) (hnew : ∀ j, read (write new j) = new)
    (hother : ∀ j p, p ≠ property → (write new j).value? p = j.value? p) :
    Accounted e start q (Query.setJoinProperty id property read write show' new q) := by
  have hcoh := h.setJoinProperty id property read show' new hwrite
  rw [setJoinProperty_apply] at hcoh ⊢
  cases hj : q.joins.get? id with
  | none => exact .of_refused h _
  | some j =>
    rw [hj] at hcoh
    dsimp only at hcoh ⊢
    split
    · exact .of_silent rfl h
    · next hne =>
      rw [if_neg hne] at hcoh
      obtain ⟨-, rfl⟩ := JoinRegistry.get?_eq_some hj
      refine .of_announced ?_ (hcoh.congr rfl rfl rfl rfl rfl rfl rfl hcoh.globalWhere)
      -- the ends of the join are not touched, so its flags are told as before
      refine tells_modifyJoin (q := q) hj (fun k => (hwrite k).1) (hread j) ?_ (hother j)
      rw [hread, hnew]

theorem Coherent.accounted_setJoinOuter (h : q.Coherent) (id : JoinId) (side : Side)
    (outer : Bool) : Accounted e start q (Query.setJoinOuter id side outer q) := by
  have hcoh := h.setJoinOuter id side outer
  by_cases hid : id ∈ q.joins.ids
  · obtain ⟨j, hj, rfl⟩ := h.joins.mem_ids.mp hid
    rw [(h.setJoinOuter_of_mem hj side outer).2] at hcoh
    rw [Query.setJoinOuter, get_bind, h.joins.setOuter_eq hj]
    generalize (j.atSide side).container = c at hcoh ⊢
    dsimp only
    rw [modify_bind]
    have hreached : { q with joins := q.joins.setOuterAt c outer }.Coherent :=
      hcoh.congr rfl rfl rfl rfl rfl rfl rfl hcoh.globalWhere
    -- all flags are written at once, which is the same as one after the other
    have hrecounts := recounts_outerChanges e start q
      (h.joins.outerChanges_old c outer) (h.joins.outerChanges_nodup c outer)
    rw [h.joins.foldl_outerChanges] at hrecounts
    exact .announceAll hrecounts hreached (isMarker_outerEvents _)
  · rw [h.setJoinOuter_of_notMem hid]
    exact .of_refused h _

theorem Coherent.accounted_removeJoin (h : q.Coherent) (id : JoinId) :
    Accounted e start q (Query.removeJoin id q) := by
  have hcoh := h.removeJoin id
  cases hj : q.joins.get? id with
  | none =>
    rw [removeJoin_of_notMem hj]
    exact .of_refused h _
  | some j =>
    rw [removeJoin_of_get? hj] at hcoh ⊢
    exact .of_announced (tells_without j) (hcoh.congr rfl rfl rfl rfl rfl rfl rfl hcoh.globalWhere)

end Query

end VisualQuery
