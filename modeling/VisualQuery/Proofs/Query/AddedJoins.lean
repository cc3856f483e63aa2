import VisualQuery.Proofs.Query.Heard
import VisualQuery.Proofs.Query.Undoing

/-!
# Which joins are added

A join is checked in two places. The query looks at its ends, one after the other: each has to be at
a table of the from-list that holds its item. The registry looks at what the query does not see,
whether the identity is taken and whether the two ends are at one table. `Query.Admits` puts the two
together, and nothing else is asked (`Query.Coherent.addJoin_ok_iff`).

The crux is the check of an end. It goes by identities: the container must not have that of the
constants, and the item is looked for in the table that is found under it. That this comes to the
same as some table of the from-list holding the item (`Query.Coherent.endError?_eq_none_iff`) takes
the invariant, by which no two containers have one identity.

Two items are joined by the same checks, at the containers that the index lists for them.
-/

namespace VisualQuery

namespace Query

open Change

variable {q : Query}

/-- **What is asked of a join that is added.** -/
structure Admits (q : Query) (j : Join) : Prop where
  /-- Each end is at a table of the from-list that holds its item. -/
  ends : ∀ side, ∃ k ∈ q.tables, k.id = (j.atSide side).container ∧
    (j.atSide side).item ∈ k.items.map (·.id)
  /-- The two tables differ. -/
  apart : j.left.container ≠ j.right.container
  /-- No registered join has the identity. -/
  fresh : j.id ∉ q.joins.ids

namespace Coherent

/-- An end passes its check if some table of the from-list is there and holds the item. -/
theorem endError?_eq_none_iff (h : q.Coherent) (id : JoinId) (e : JoinEnd) :
    q.endError? id e = none ↔
      ∃ k ∈ q.tables, k.id = e.container ∧ e.item ∈ k.items.map (·.id) := by
  constructor
  · exact fun hnone => (holdsEnd_iff h.housed).mp (holdsEnd_of_endError? hnone)
  · rintro ⟨k, hk, hid, hitem⟩
    have hconstants : e.container ≠ q.constants.id := hid ▸ h.id_ne_constants hk
    rw [endError?, if_neg hconstants, h.housed.table?_iff.mpr ⟨hk, hid⟩]
    exact if_pos (Container.contains_iff.mpr hitem)

/-- A join that is admitted is registered behind the others, and that is announced. -/
theorem addJoin_of_admits (h : q.Coherent) {j : Join} (hj : q.Admits j) :
    Query.addJoin j q =
      .announced j.id { q with joins := q.joins.extend j } (.joinAdded j.id) := by
  rw [addJoin_apply, (h.endError?_eq_none_iff j.id j.left).mpr (hj.ends .left),
    (h.endError?_eq_none_iff j.id j.right).mpr (hj.ends .right), h.joins.add_eq,
    if_neg hj.fresh, if_neg hj.apart]

/-- A join that is added was admitted. -/
theorem admits_of_addJoin (h : q.Coherent) {j : Join} {id : JoinId}
    (hok : (Query.addJoin j q).result = .ok id) : q.Admits j := by
  obtain ⟨hfresh, hapart, -⟩ := h.addJoin_of_ok hok
  -- an end that fails its check would have ended the edit with that error
  rw [addJoin_apply] at hok
  have hleft : q.endError? j.id j.left = none := by
    cases hl : q.endError? j.id j.left with
    | none => rfl
    | some cause =>
      rw [hl] at hok
      cases hok
  have hright : q.endError? j.id j.right = none := by
    cases hr : q.endError? j.id j.right with
    | none => rfl
    | some cause =>
      rw [hleft, hr] at hok
      cases hok
  refine ⟨fun side => ?_, hapart, hfresh⟩
  cases side with
  | left => exact (h.endError?_eq_none_iff j.id j.left).mp hleft
  | right => exact (h.endError?_eq_none_iff j.id j.right).mp hright

/-- **A join is added if and only if it is admitted.** -/
theorem addJoin_ok_iff (h : q.Coherent) (j : Join) :
    (∃ id, (Query.addJoin j q).result = .ok id) ↔ q.Admits j := by
  constructor
  · rintro ⟨id, hok⟩
    exact h.admits_of_addJoin hok
  · intro hj
    rw [h.addJoin_of_admits hj]
    exact ⟨j.id, rfl⟩

end Coherent

/-! ### Joining two items -/

/-- **Two items are joined if and only if two different tables hold them.** -/
theorem Coherent.joinItems_ok_iff (h : q.Coherent) {id : JoinId} (hid : id ∉ q.joins.ids)
    (left right : ItemId) :
    (∃ id', (Query.joinItems id left right q).result = .ok id') ↔
      ∃ k ∈ q.tables, ∃ k' ∈ q.tables, k.id ≠ k'.id ∧
        left ∈ k.items.map (·.id) ∧ right ∈ k'.items.map (·.id) := by
  rw [joinItems_apply]
  -- the owner of either item is looked up first, and then it is an ordinary `addJoin`
  constructor
  · rintro ⟨id', hok⟩
    cases hl : q.itemIndex.get? left with
    | none =>
      rw [hl] at hok
      cases hok
    | some c =>
      cases hr : q.itemIndex.get? right with
      | none =>
        rw [hl, hr] at hok
        cases hok
      | some d =>
        rw [hl, hr] at hok
        have hj := h.admits_of_addJoin hok
        obtain ⟨k, hk, rfl, hleft⟩ := hj.ends .left
        obtain ⟨k', hk', rfl, hright⟩ := hj.ends .right
        exact ⟨k, hk, k', hk', hj.apart, hleft, hright⟩
  · rintro ⟨k, hk, k', hk', hne, hleft, hright⟩
    -- the constants own items too, but an end must lie in a listed table
    rw [(h.housed.get?_iff left k.id).mpr ⟨k, List.mem_cons_of_mem _ hk, rfl, hleft⟩,
      (h.housed.get?_iff right k'.id).mpr ⟨k', List.mem_cons_of_mem _ hk', rfl, hright⟩]
    refine (h.addJoin_ok_iff _).mpr ⟨fun side => ?_, hne, hid⟩
    cases side with
    | left => exact ⟨k, hk, rfl, hleft⟩
    | right => exact ⟨k', hk', rfl, hright⟩

end Query

namespace Session

open Query

/-- As long as no listener fails, an edit is made if its change comes to a value. -/
theorem ending_made_iff {s : Session} (hbus : s.bus.Quiet) {e : Edit} {α : Type} {m : Change α}
    {reply : α → Reply} (he : e.change = reply <$> m) :
    (∃ r, (s.perform e).ending = .made r) ↔ ∃ a, (m s.query).result = .ok a := by
  -- no listener fails, so the edit ends as the change does
  rw [perform_of_quiet hbus, he, Change.map_apply]
  cases (m s.query).result with
  | error cause =>
    constructor
    · rintro ⟨r, hr⟩
      cases hr
    · rintro ⟨a, ha⟩
      cases ha
  | ok a => exact ⟨fun _ => ⟨a, rfl⟩, fun _ => ⟨reply a, rfl⟩⟩

/-- **Exactly the joins between items of two tables are added, and nothing but the registry
changes.** At every query that a history comes to, under listeners that do not fail:

* a join is added if and only if each end is at a table of the from-list that holds its item, the
  two tables differ, and no registered join has its identity;
* the join that was added is the last one of the registry. On each side it has the outer flag of the
  joins that are at the table already, and its own one if there are none; its identity, items,
  comparator and name are as they were given (`JoinRegistry.IsForced`);
* the joins before it, the rest of the document and everything else in the query stay as they were,
  but for the mark of an open compound edit, and each listener hears of one event, that the join was
  added;
* two items are joined, under a fresh identity, if and only if they are held by two different tables
  of the from-list. -/
theorem perform_addJoin {s : Session} (hbus : s.bus.Quiet) (hq : s.query.Reachable) :
    (∀ j : Join,
      ((∃ reply, (s.perform (.addJoin j)).ending = .made reply) ↔
        (∀ side, ∃ k ∈ s.query.tables, k.id = (j.atSide side).container ∧
          (j.atSide side).item ∈ k.items.map (·.id)) ∧
        j.left.container ≠ j.right.container ∧ j.id ∉ s.query.joins.ids) ∧
      ((∃ reply, (s.perform (.addJoin j)).ending = .made reply) →
        ∃ (q' : Query) (added : Join),
          s.perform (.addJoin j) =
            { ending := .made (.joinId j.id)
              session := ⟨q', s.bus⟩
              told := s.bus.deliveries (.joinAdded j.id) } ∧
          s.query.joins.IsForced j added ∧
          q'.joins.inOrder = s.query.joins.inOrder ++ [added] ∧
          Document.ofQuery q' =
            { Document.ofQuery s.query with joins := s.query.joins.inOrder ++ [added] } ∧
          q' = { s.query with joins := q'.joins, pending := q'.pending })) ∧
    ∀ (id : JoinId) (left right : ItemId), id ∉ s.query.joins.ids →
      ((∃ reply, (s.perform (.joinItems id left right)).ending = .made reply) ↔
        ∃ k ∈ s.query.tables, ∃ k' ∈ s.query.tables, k.id ≠ k'.id ∧
          left ∈ k.items.map (·.id) ∧ right ∈ k'.items.map (·.id)) := by
  have h := hq.coherent
  refine ⟨fun j => ⟨?_, fun hmade => ?_⟩, fun id left right hid => ?_⟩
  · rw [ending_made_iff hbus rfl, h.addJoin_ok_iff]
    exact ⟨fun hj => ⟨hj.ends, hj.apart, hj.fresh⟩,
      fun ⟨hends, hapart, hfresh⟩ => ⟨hends, hapart, hfresh⟩⟩
  · have hj := (h.addJoin_ok_iff j).mp ((ending_made_iff hbus rfl).mp hmade)
    have hadd := h.addJoin_of_admits hj
    -- the registry keeps the order of arrival, so the new join comes last
    have horder : (s.query.joins.extend j).inOrder =
        s.query.joins.inOrder ++ [s.query.joins.forced j] := by
      rw [(h.joins.extend hj.fresh hj.apart).inOrder_eq, h.joins.inOrder_eq]
      rfl
    -- what is stored is the join with its flags forced, while the event carries its identifier only
    refine ⟨{ s.query with joins := s.query.joins.extend j }.noted, s.query.joins.forced j, ?_,
      h.joins.isForced j, horder, ?_, rfl⟩
    case refine_2 =>
      rw [← horder]
      rfl
    rw [perform_made hbus rfl (Change.Reaches.of_announced hadd), events_announced hadd,
      List.flatMap_singleton]
  · rw [ending_made_iff hbus rfl, h.joinItems_ok_iff hid]

/-- In the sample a second join is added between the two tables that are joined already. It asks for
an outer flag that the first one does not have, and does not get it. -/
theorem perform_addJoin_sample :
    ∃ (q' : Query) (added : Join),
      perform ⟨sampleQuery, .log⟩ (.addJoin lateJoin) =
        { ending := .made (.joinId lateJoin.id)
          session := ⟨q', .log⟩
          told := Bus.log.deliveries (.joinAdded lateJoin.id) } ∧
      lateJoin.left.outer = true ∧ added.left.outer = false ∧
      q'.joins.inOrder = sampleQuery.joins.inOrder ++ [added] ∧
      ∃ reply, (perform ⟨sampleQuery, .log⟩
        (.joinItems ⟨.ofNat 32⟩ ⟨.ofNat 11⟩ ⟨.ofNat 22⟩)).ending = .made reply := by
  obtain ⟨hadd, hitems⟩ :=
    perform_addJoin (s := ⟨sampleQuery, .log⟩) Bus.log_quiet sampleQuery_reachable
  obtain ⟨hiff, hdone⟩ := hadd lateJoin
  have hends : ∀ side, ∃ k ∈ sampleQuery.tables, k.id = (lateJoin.atSide side).container ∧
      (lateJoin.atSide side).item ∈ k.items.map (·.id) := by
    intro side
    cases side <;> decide
  obtain ⟨q', added, hperform, hforced, hjoins, -⟩ :=
    hdone (hiff.mpr ⟨hends, by decide, by decide⟩)
  have hjoined := (hitems ⟨.ofNat 32⟩ ⟨.ofNat 11⟩ ⟨.ofNat 22⟩ (by decide)).mpr (by decide)
  -- the table at the left end has the join of the sample, which does not keep all its rows
  have hleft : added.left.outer = false := hforced.shared .left
    ⟨⟨.ofNat 30⟩, ⟨⟨.ofNat 10⟩, ⟨.ofNat 12⟩, false⟩, ⟨⟨.ofNat 20⟩, ⟨.ofNat 21⟩, false⟩, .eq, none⟩
    List.mem_cons_self .left rfl
  exact ⟨q', added, hperform, rfl, hleft, hjoins, hjoined⟩

end Session

end VisualQuery
