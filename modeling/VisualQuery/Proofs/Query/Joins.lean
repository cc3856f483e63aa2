import VisualQuery.Proofs.JoinRegistry.Changes
import VisualQuery.Proofs.Query.Coherent
import VisualQuery.Query.Joins

/-!
# Changes to joins keep the invariant

A join is added if both its ends are at tables that hold their items (`endError?`) and the registry
accepts it. The changes to registered joins never move an end to another place, so what is left to
show is that the registry keeps its own invariant.
-/

namespace VisualQuery

theorem Join.forced_item (r : JoinRegistry) (j : Join) (side : Side) :
    ((r.forced j).atSide side).item = (j.atSide side).item := by
  cases side <;> rfl

theorem Join.setOuter_item (j : Join) (side s : Side) (outer : Bool) :
    ((j.setOuter side outer).atSide s).item = (j.atSide s).item := by
  cases side <;> cases s <;> rfl

theorem Join.setOuterAt_item (c : ContainerId) (outer : Bool) (j : Join) (side : Side) :
    ((j.setOuterAt c outer).atSide side).item = (j.atSide side).item := by
  unfold setOuterAt
  split
  · exact j.setOuter_item _ _ _
  · rfl

namespace Query

open Change

variable {q : Query}

/-- Whether an end is held does not depend on its outer flag. -/
theorem holdsEnd_congr {e e' : JoinEnd} (hcontainer : e.container = e'.container)
    (hitem : e.item = e'.item) : q.holdsEnd e = q.holdsEnd e' := by
  rw [holdsEnd, holdsEnd, hcontainer, hitem]

/-! ### Adding a join -/

/-- Why an end is refused, if it is. -/
def endError? (q : Query) (id : JoinId) (e : JoinEnd) : Option QueryError :=
  if e.container = q.constants.id then some .constantsContainer
  else
    match q.table? e.container with
    | none => some (.topology (.foreignContainer id e.container))
    | some table =>
      if table.contains e.item then none
      else some (.topology (.foreignItem id e.item e.container))

theorem checkEnd_apply (id : JoinId) (e : JoinEnd) (q : Query) :
    checkEnd id e q =
      match q.endError? id e with
      | none => .silent () q
      | some cause => .refused cause q := by
  rw [checkEnd, get_bind, endError?]
  by_cases hc : e.container = q.constants.id
  · rw [if_pos hc, if_pos hc]
    exact bind_of_refused (refuse_apply _ q)
  · rw [if_neg hc, if_neg hc]
    cases q.table? e.container with
    | none => exact bind_of_refused (need_none _ q)
    | some table =>
      change (need _ (some table) >>= _) q = _
      rw [bind_of_silent (need_some _ _ q)]
      dsimp only
      cases table.contains e.item <;> rfl

/-- An end that is not refused is held. -/
theorem holdsEnd_of_endError? {id : JoinId} {e : JoinEnd} (h : q.endError? id e = none) :
    q.holdsEnd e = true := by
  rw [endError?] at h
  split at h
  · exact absurd h (by simp)
  · rw [holdsEnd]
    cases ht : q.table? e.container with
    | none =>
      rw [ht] at h
      exact absurd h (by simp)
    | some table =>
      rw [ht] at h
      dsimp only at h
      split at h
      · next hitem => exact hitem
      · exact absurd h (by simp)

theorem addJoin_apply (j : Join) (q : Query) :
    addJoin j q =
      match q.endError? j.id j.left with
      | some cause => .refused cause q
      | none =>
        match q.endError? j.id j.right with
        | some cause => .refused cause q
        | none =>
          match q.joins.add j with
          | .error cause => .refused (.topology cause) q
          | .ok (_, joins) => .announced j.id { q with joins } (.joinAdded j.id) := by
  have hleft := checkEnd_apply j.id j.left q
  have hright := checkEnd_apply j.id j.right q
  rw [addJoin]
  cases hl : q.endError? j.id j.left with
  | some cause =>
    rw [hl] at hleft
    exact bind_of_refused hleft
  | none =>
    -- the check of the left end changes nothing, so the right end is checked on the same query
    rw [hl] at hleft
    rw [bind_of_silent hleft]
    cases hr : q.endError? j.id j.right with
    | some cause =>
      rw [hr] at hright
      exact bind_of_refused hright
    | none =>
      rw [hr] at hright
      rw [bind_of_silent hright, get_bind]
      cases q.joins.add j with
      | error cause => rfl
      | ok added =>
        obtain ⟨changes, joins⟩ := added
        dsimp only
        rw [modify_bind, announce_return rfl]

/-- **Adding a join keeps the invariant.** -/
theorem Coherent.addJoin (h : q.Coherent) (j : Join) : (addJoin j q).query.Coherent := by
  rw [addJoin_apply]
  cases hl : q.endError? j.id j.left with
  | some cause => exact h
  | none =>
    cases hr : q.endError? j.id j.right with
    | some cause => exact h
    | none =>
      cases hadd : q.joins.add j with
      | error cause => exact h
      | ok added =>
        obtain ⟨changes, joins⟩ := added
        obtain ⟨-, rfl, hcoh⟩ := h.joins.of_add hadd
        refine (h.withJoins hcoh fun k hk side => ?_).noted
        rcases List.mem_append.mp hk with hk | hk
        · exact h.ends k hk side
        · -- the new join, whose flags do not matter
          rw [List.mem_singleton.mp hk,
            holdsEnd_congr (JoinRegistry.forced_container _ j side) (Join.forced_item _ j side)]
          cases side with
          | left => exact holdsEnd_of_endError? hl
          | right => exact holdsEnd_of_endError? hr

/-- The join that compares two items for equality. -/
def equality (id : JoinId) (c : ContainerId) (left : ItemId) (d : ContainerId) (right : ItemId) :
    Join :=
  ⟨id, ⟨c, left, false⟩, ⟨d, right, false⟩, .eq, none⟩

/-- Two known items are joined at the containers that the index lists for them. -/
theorem joinItems_apply (id : JoinId) (left right : ItemId) (q : Query) :
    joinItems id left right q =
      match q.itemIndex.get? left, q.itemIndex.get? right with
      | none, _ => .refused (.unknownItem left) q
      | some _, none => .refused (.unknownItem right) q
      | some c, some d => addJoin (equality id c left d right) q := by
  rw [joinItems, get_bind]
  cases q.itemIndex.get? left with
  | none => exact bind_of_refused (need_none _ q)
  | some c =>
    rw [bind_of_silent (need_some _ c q), get_bind]
    cases q.itemIndex.get? right with
    | none => exact bind_of_refused (need_none _ q)
    | some d => exact bind_of_silent (need_some _ d q)

/-- Joining two items keeps the invariant. -/
theorem Coherent.joinItems (h : q.Coherent) (id : JoinId) (left right : ItemId) :
    (joinItems id left right q).query.Coherent := by
  rw [joinItems_apply]
  cases q.itemIndex.get? left with
  | none => exact h
  | some c =>
    cases q.itemIndex.get? right with
    | none => exact h
    | some d => exact h.addJoin _

/-! ### Changing a join -/

theorem Coherent.setJoinOuter_of_notMem (h : q.Coherent) {id : JoinId} (hid : id ∉ q.joins.ids)
    (side : Side) (outer : Bool) :
    setJoinOuter id side outer q = .refused (.unknownJoin id) q := by
  rw [setJoinOuter, get_bind, JoinRegistry.setOuter_of_none (h.joins.get?_eq_none_iff.mpr hid)]
  rfl

/-- None of the events for outer flags marks a compound edit. -/
theorem isMarker_outerEvents (changes : List OuterChange) :
    ∀ e ∈ changes.map outerEvent, e.isMarker = false := by
  intro e he
  obtain ⟨change, -, rfl⟩ := List.mem_map.mp he
  rfl

/-- Setting an outer flag sets the flag of the table, for all joins at it. -/
theorem Coherent.setJoinOuter_of_mem (h : q.Coherent) {j : Join} (hj : j ∈ q.joins.joins)
    (side : Side) (outer : Bool) :
    Reaches (setJoinOuter j.id side outer) q ()
      ({ q with joins := q.joins.setOuterAt (j.atSide side).container outer }.notedIf
        (!(q.joins.joins.filterMap
          (JoinRegistry.outerChange? (j.atSide side).container outer)).isEmpty)) := by
  rw [setJoinOuter]
  refine (Reaches.get q).bind ?_
  rw [h.joins.setOuter_eq hj]
  dsimp only
  refine (Reaches.modify _ q).bind ?_
  -- the mark is set if something was told, one event for each changed end
  rw [← List.isEmpty_map (f := outerEvent)]
  exact Reaches.announceAll (isMarker_outerEvents _) _

theorem Coherent.setJoinOuter (h : q.Coherent) (id : JoinId) (side : Side) (outer : Bool) :
    (setJoinOuter id side outer q).query.Coherent := by
  by_cases hid : id ∈ q.joins.ids
  · -- the flags change, but the ends stay where they are
    obtain ⟨j, hj, rfl⟩ := h.joins.mem_ids.mp hid
    rw [(h.setJoinOuter_of_mem hj side outer).2]
    refine (h.withJoins (h.joins.setOuterAt _ outer) fun k hk s => ?_).notedIf _
    obtain ⟨k₀, hk₀, rfl⟩ := List.mem_map.mp hk
    rw [holdsEnd_congr (Join.setOuterAt_container _ _ k₀ s) (Join.setOuterAt_item _ _ k₀ s)]
    exact h.ends k₀ hk₀ s
  · rw [h.setJoinOuter_of_notMem hid]
    exact h

/-- Setting a property of a join, which is refused if there is no such join. -/
theorem setJoinProperty_apply {β : Type} [DecidableEq β] (id : JoinId) (property : Property)
    (read : Join → β) (write : β → Join → Join) (show' : β → PropertyValue) (new : β) (q : Query) :
    setJoinProperty id property read write show' new q =
      match q.joins.get? id with
      | none => .refused (.unknownJoin id) q
      | some j =>
        if read j = new then .silent () q
        else .announced () { q with joins := q.joins.modify id (write new) }
          (.joinChanged ⟨id, property, show' (read j), show' new⟩) := by
  rw [setJoinProperty, get_bind]
  cases q.joins.get? id with
  | none => exact bind_of_refused (need_none _ q)
  | some j =>
    rw [bind_of_silent (need_some _ _ q)]
    dsimp only
    by_cases hsame : read j = new
    · rw [if_pos hsame, if_pos hsame]
      rfl
    · rw [if_neg hsame, if_neg hsame, modify_bind, announce_apply rfl]

theorem Coherent.setJoinProperty {β : Type} [DecidableEq β] (h : q.Coherent) (id : JoinId)
    (property : Property) (read : Join → β) {write : β → Join → Join} (show' : β → PropertyValue)
    (new : β) (hwrite : ∀ j, (write new j).id = j.id ∧ (write new j).left = j.left ∧
      (write new j).right = j.right) :
    (setJoinProperty id property read write show' new q).query.Coherent := by
  rw [setJoinProperty_apply]
  cases q.joins.get? id with
  | none => exact h
  | some j =>
    dsimp only
    split
    · exact h
    · refine (h.withJoins (h.joins.modify id hwrite) fun k hk side => ?_).noted
      obtain ⟨k₀, hk₀, rfl⟩ := List.mem_map.mp hk
      -- ends may lose their flag, but not their place, so they still lie where they did
      have hend : (if k₀.id = id then write new k₀ else k₀).atSide side = k₀.atSide side := by
        split
        · cases side with
          | left => exact (hwrite k₀).2.1
          | right => exact (hwrite k₀).2.2
        · rfl
      rw [hend]
      exact h.ends k₀ hk₀ side

end Query

end VisualQuery
