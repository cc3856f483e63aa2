import Mathlib.Data.List.InsertIdx
import VisualQuery.Proofs.Accounts.Reset
import VisualQuery.Proofs.CompoundEdits.Log
import VisualQuery.Proofs.Document.Same

/-!
# What is announced shows in the document

A listener that hears of a change reads the query again, and at the end of a compound edit runs it.
So nothing should be announced that changes nothing. Each setter looks after this by a guard of its
own: it compares the value that is there with the new one and ends early.

For every edit there is a lemma here that says so (`Change.ShowsAt`): if a change is announced, the
document behind the edit is another one. The equations for the outcome of an edit leave little to
do. An edit that is refused, or ended by its guard, announces nothing; of an edit that went on it is
enough to find one thing in the document that the guard has ruled out: a value that was written
over, an identity that is new or gone. For the cascades the last of their steps is enough.

One edit has no guard. Moving a selected item to the place at which it is announces a new order, and
the order is the old one (`Edit.StaysPut`). `Session.unchanged_and_announced_iff` says that this is
all that can go wrong.
-/

namespace VisualQuery

open Change

namespace Document

@[simp] theorem ofQuery_noted (q : Query) : ofQuery q.noted = ofQuery q := rfl

@[simp] theorem ofQuery_closed (q : Query) : ofQuery q.closed = ofQuery q := by
  rw [Query.closed]
  split <;> rfl

end Document

/-- What stays the same as a list stays the same one by one. -/
theorem fixed_of_map_eq {α : Type} {f : α → α} {l : List α} (h : l.map f = l) {a : α}
    (ha : a ∈ l) : f a = a :=
  List.map_inj_left.mp (h.trans (List.map_id l).symm) a ha

/-- Taking a member out and putting it in at a place gives the list back exactly if it was there. -/
theorem insertIdx_erase_eq_iff {α : Type} [DecidableEq α] {l : List α} {a : α} (hnd : l.Nodup)
    (ha : a ∈ l) {i : Nat} (hi : i < l.length) :
    (l.erase a).insertIdx i a = l ↔ l.idxOf a = i := by
  constructor
  · intro hl
    -- the list has at this place what was put there
    have hget : l[i] = a := by
      have hinserted := List.getElem_insertIdx_self (l := l.erase a) (x := a) (i := i) (by rwa [hl])
      simpa only [hl] using hinserted
    rw [← hget, hnd.idxOf_getElem]
  · rintro rfl
    have hput := List.insertIdx_eraseIdx_getElem (List.idxOf_lt_length_of_mem ha)
    rwa [← List.erase_eq_eraseIdx_of_idxOf rfl, List.getElem_idxOf] at hput

namespace Change

variable {α β : Type} {m : Change α} {q q' : Query} {a : α}

/-- If a change is announced, the document is another one behind it. The from-list is taken to name
the tables of the map, as it does behind every edit (`Query.Coherent.listed_change`): a document has
only those that the list names. -/
def ShowsAt (q : Query) (o : Outcome α) : Prop :=
  o.query.Listed → ∀ a ∈ o.log, a.event.isMarker = false →
    ¬ (Document.ofQuery q).Same (Document.ofQuery o.query)

namespace ShowsAt

theorem of_silent : ShowsAt q (.silent a q' : Outcome α) := fun _ _ ha =>
  absurd ha List.not_mem_nil

theorem of_refused {e : QueryError} : ShowsAt q (.refused e q' : Outcome α) := fun _ _ ha =>
  absurd ha List.not_mem_nil

theorem of_query {o : Outcome α}
    (h : o.query.Listed → ¬ (Document.ofQuery q).Same (Document.ofQuery o.query)) :
    ShowsAt q o := fun hlisted _ _ _ => h hlisted

theorem of_announced {e : Event}
    (h : q'.Listed → ¬ (Document.ofQuery q).Same (Document.ofQuery q')) :
    ShowsAt q (.announced a q' e : Outcome α) :=
  of_query fun hlisted => h ⟨hlisted.mapped, hlisted.nodup, hlisted.joins⟩

theorem of_reaches (hm : Reaches m q a q')
    (h : q'.Listed → ¬ (Document.ofQuery q).Same (Document.ofQuery q')) : ShowsAt q (m q) :=
  of_query (hm.2.symm ▸ h)

theorem of_markers {o : Outcome α} (h : ∀ a ∈ o.log, a.event.isMarker = true) : ShowsAt q o := by
  intro _ a ha hmarker
  rw [h a ha] at hmarker
  exact absurd hmarker (by simp)

theorem map (h : ShowsAt q (m q)) (g : α → β) : ShowsAt q ((g <$> m) q) := by
  rw [map_apply]
  exact h

end ShowsAt

end Change

namespace Query

variable {q : Query}

/-! ### Items -/

/-- A write to an item does not show only if the item had the value already. -/
theorem eq_of_onItem (hq : q.Listed) {f : Item → Item} {x : Item} (hx : x ∈ q.items) {q' : Query}
    (hitems : q'.items = q.items.map (Container.onItem x.id f)) (hq' : q'.Listed)
    (h : (Document.ofQuery q).Same (Document.ofQuery q')) : f x = x := by
  have hfixed := fixed_of_map_eq (hitems.symm.trans (h.items_eq hq hq').symm) hx
  rwa [Container.onItem_self] at hfixed

namespace Coherent

theorem setItemProperty_shows {β : Type} [DecidableEq β] (h : q.Coherent) (id : ItemId)
    (property : Property) (read : Item → β) (write : β → Item → Item) (show' : β → PropertyValue)
    {new : β} (hnew : ∀ x, read (write new x) = new) :
    ShowsAt q (Query.setItemProperty id property read write show' new q) := by
  by_cases hid : id ∈ q.items.map (·.id)
  · obtain ⟨x, hx, rfl⟩ := List.mem_map.mp hid
    rw [h.setItemProperty_of_mem hx]
    split
    · exact .of_silent
    · next hne =>
      -- had the documents been the same, the item would have had the new value before
      refine .of_announced fun hlisted hsame => hne ?_
      rw [← eq_of_onItem h.listed hx (items_mapItems _ q) hlisted hsame, hnew]
  · rw [h.setItemProperty_of_notMem hid]
    exact .of_refused

theorem setItemSelected_shows (h : q.Coherent) (id : ItemId) (on : Bool) :
    ShowsAt q (Query.setItemSelected id on q) := by
  by_cases hid : id ∈ q.items.map (·.id)
  · obtain ⟨x, hx, rfl⟩ := List.mem_map.mp hid
    rw [h.setItemSelected_of_mem hx]
    split
    · exact .of_silent
    · next hne =>
      refine .of_announced fun hlisted hsame => hne ?_
      -- the lists move with the flag, but the items alone show the change
      have hitems : (q.withSelected x on).items =
          q.items.map (Container.onItem x.id fun x => { x with selected := on }) :=
        items_mapItems _ q
      exact congrArg (·.selected) (eq_of_onItem h.listed hx hitems hlisted hsame).symm
  · rw [h.setItemSelected_of_notMem hid]
    exact .of_refused

theorem setSortOrder_shows (h : q.Coherent) (id : ItemId) (order : SortOrder) :
    ShowsAt q (Query.setSortOrder id order q) := by
  by_cases hid : id ∈ q.items.map (·.id)
  · obtain ⟨x, hx, rfl⟩ := List.mem_map.mp hid
    rw [h.setSortOrder_of_mem hx]
    split
    · exact .of_silent
    · next hne =>
      refine .of_announced fun hlisted hsame => hne ?_
      -- whether the sort list moves depends on the selection, so it is not what shows the change
      have hitems : (q.withSortOrder x order).items =
          q.items.map (Container.onItem x.id fun x => { x with sortOrder := order }) :=
        items_mapItems _ q
      exact congrArg (·.sortOrder) (eq_of_onItem h.listed hx hitems hlisted hsame).symm
  · rw [h.setSortOrder_of_notMem hid]
    exact .of_refused

end Coherent

theorem renameItem_shows (h : q.Coherent) (id : ItemId) (name : String) :
    ShowsAt q (renameItem id name q) := by
  rw [renameItem]
  split
  · rw [bind_of_refused (refuse_apply _ q)]
    exact .of_refused
  · exact h.setItemProperty_shows id _ _ _ _ fun _ => rfl

/-! ### Adding -/

theorem Coherent.insertItem_shows (h : q.Coherent) (c : ContainerId) (index : Nat) (x : Item) :
    ShowsAt q (Query.insertItem c index x q) := by
  by_cases hx : x.id ∈ q.items.map (·.id)
  · rw [h.insertItem_of_mem hx]
    exact .of_refused
  · cases hc : q.container? c with
    | none =>
      rw [h.insertItem_of_unknown hx hc]
      exact .of_refused
    | some k =>
      obtain ⟨hk, rfl⟩ := h.housed.container?_iff.mp hc
      rw [h.insertItem_of_mem_containers hk hx]
      refine .of_announced fun hlisted hsame => hx ?_
      -- there is one item more, and it is the new one
      rw [hsame.items_eq h.listed hlisted, Query.withItem, enlist_eq]
      have hperm := h.housed.items_insert_perm hk index x
      exact (hperm.map _).mem_iff.mpr List.mem_cons_self

theorem Coherent.addItem_shows (h : q.Coherent) (c : ContainerId) (x : Item) :
    ShowsAt q (Query.addItem c x q) := by
  rw [addItem_apply]
  exact h.insertItem_shows c _ x

theorem Coherent.addConstant_shows (h : q.Coherent) (id : ItemId) (text : String) :
    ShowsAt q (Query.addConstant id text q) := by
  rw [addConstant_apply]
  split
  · exact .of_refused
  · exact h.addItem_shows _ _

theorem Coherent.addTable_shows (h : q.Coherent) (c : Container) :
    ShowsAt q (Query.addTable c q) := by
  cases hkind : c.isConstants with
  | true =>
    rw [addTable_of_constants hkind]
    exact .of_refused
  | false =>
    by_cases hc : c.id ∈ q.containers.map (·.id)
    · rw [h.addTable_of_mem hkind hc]
      exact .of_refused
    · by_cases hitems : ∀ x ∈ c.items, x.id ∉ q.items.map (·.id)
      · rw [h.addTable_of_new hkind hc hitems]
        -- the new table is listed, and it was not before
        refine .of_announced fun hlisted hsame => hc ?_
        refine List.mem_cons_of_mem _ ?_
        rw [h.mapped, hsame.tableIds_eq h.listed hlisted, Query.withTable, foldl_enlist]
        exact List.mem_append_right _ List.mem_cons_self
      · push Not at hitems
        obtain ⟨x, hx, hitem⟩ := hitems
        obtain ⟨y, -, hy⟩ := h.addTable_of_item hkind hc hx hitem
        rw [hy]
        exact .of_refused

/-! ### Removing -/

theorem Coherent.removeItem_shows (h : q.Coherent) (id : ItemId) :
    ShowsAt q (Query.removeItem id q) := by
  by_cases hid : id ∈ q.items.map (·.id)
  · obtain ⟨x, hx, rfl⟩ := List.mem_map.mp hid
    refine .of_reaches (h.removeItem_of_mem hx) fun _ hsame => ?_
    rw [Document.ofQuery_closed, Document.ofQuery_noted] at hsame
    -- the item is gone
    have hgone := hsame.items_eq h.listed ((h.opened _).withoutItem x.id).listed ▸ hx
    change x ∈ ((q.opened _).filterItems (·.id ≠ x.id)).items at hgone
    rw [items_filterItems, List.mem_filter] at hgone
    exact of_decide_eq_true hgone.2 rfl
  · rw [h.removeItem_of_notMem hid]
    exact .of_refused

theorem Coherent.removeTable_shows (h : q.Coherent) (id : ContainerId) :
    ShowsAt q (Query.removeTable id q) := by
  by_cases hne : id = q.constants.id
  · rw [hne, removeTable_of_constants]
    exact .of_refused
  · cases hid : q.table? id with
    | none =>
      rw [removeTable_of_none hne hid]
      exact .of_refused
    | some k =>
      obtain ⟨hk, rfl⟩ := h.housed.table?_iff.mp hid
      refine .of_reaches (h.removeTable_of_mem hk) fun _ hsame => ?_
      rw [Document.ofQuery_closed, Document.ofQuery_noted] at hsame
      -- the table is gone
      have hgone := h.id_mem_tableIds hk
      have hopened : k ∈ (q.opened ("Removing table " ++ k.name)).tables := by
        rw [tables_opened]
        exact hk
      rw [hsame.tableIds_eq h.listed ((h.opened _).withoutTable hopened).listed] at hgone
      exact of_decide_eq_true (List.mem_filter.mp hgone).2 rfl

/-! ### Containers -/

/-- A write to a container does not show only if the container stays the same. -/
theorem Coherent.same_of_modifyContainer (h : q.Coherent) {k : Container}
    (hk : k ∈ q.containers) {f : Container → Container}
    (hlisted : (q.modifyContainer k.id f).Listed)
    (hsame : (Document.ofQuery q).Same (Document.ofQuery (q.modifyContainer k.id f))) :
    k.Same (f k) := by
  rw [h.housed.modifyContainer_eq] at hsame hlisted
  have hall := hsame.containers h.listed hlisted
  rw [containers_mapContainers, List.forall₂_map_right_iff, List.forall₂_same] at hall
  have hsame := hall k hk
  rwa [if_pos rfl] at hsame

/-- A property of a container that is not the same shows in the document. -/
theorem Coherent.setContainerProperty_shows {β : Type} (h : q.Coherent) (id : ContainerId)
    (property : Property) {read : Container → β} {same : β → β → Bool}
    {write : β → Container → Container} (show' : β → PropertyValue) {new : β}
    (hsame : ∀ k, k.Same (write new k) → same (read k) new = true) :
    ShowsAt q (Query.setContainerProperty id property read same write show' new q) := by
  cases hk : q.container? id with
  | none =>
    rw [setContainerProperty_of_none _ _ _ _ _ _ hk]
    exact .of_refused
  | some k =>
    rw [setContainerProperty_of_some _ _ _ _ _ _ hk]
    obtain ⟨hkq, rfl⟩ := h.housed.container?_iff.mp hk
    split
    · exact .of_silent
    · next hne =>
      exact .of_announced fun hlisted hdocument =>
        hne (hsame k (h.same_of_modifyContainer hkq hlisted hdocument))

/-! ### Joins -/

theorem Coherent.addJoin_shows (h : q.Coherent) (j : Join) : ShowsAt q (Query.addJoin j q) := by
  rw [addJoin_apply]
  cases q.endError? j.id j.left with
  | some cause => exact .of_refused
  | none =>
    cases q.endError? j.id j.right with
    | some cause => exact .of_refused
    | none =>
      cases hadd : q.joins.add j with
      | error cause => exact .of_refused
      | ok added =>
        obtain ⟨changes, joins⟩ := added
        refine .of_announced fun hlisted hsame => ?_
        -- there is one join more
        obtain ⟨-, rfl, -⟩ := h.joins.of_add hadd
        have hlength := congrArg List.length (hsame.joins_eq h.listed hlisted)
        change q.joins.joins.length = (q.joins.joins ++ [_]).length at hlength
        rw [List.length_append, List.length_singleton] at hlength
        omega

theorem Coherent.joinItems_shows (h : q.Coherent) (id : JoinId) (left right : ItemId) :
    ShowsAt q (Query.joinItems id left right q) := by
  rw [Query.joinItems, get_bind]
  cases q.itemIndex.get? left with
  | none =>
    rw [bind_of_refused (need_none _ q)]
    exact .of_refused
  | some leftContainer =>
    rw [bind_of_silent (need_some _ _ q), get_bind]
    cases q.itemIndex.get? right with
    | none =>
      rw [bind_of_refused (need_none _ q)]
      exact .of_refused
    | some rightContainer =>
      rw [bind_of_silent (need_some _ _ q)]
      -- both owners are known: what is left is an ordinary `addJoin`
      exact h.addJoin_shows _

theorem Coherent.removeJoin_shows (h : q.Coherent) (id : JoinId) :
    ShowsAt q (Query.removeJoin id q) := by
  cases hj : q.joins.get? id with
  | none =>
    rw [removeJoin_of_notMem hj]
    exact .of_refused
  | some j =>
    rw [removeJoin_of_get? hj]
    refine .of_announced fun hlisted hsame => ?_
    -- the removed join would still be listed
    have hgone : j ∈ (q.joins.without j).joins :=
      hsame.joins_eq h.listed hlisted ▸ (JoinRegistry.get?_eq_some hj).1
    exact (JoinRegistry.mem_without.mp hgone).2 rfl

theorem outerChange?_of_setOuterAt {c : ContainerId} {outer : Bool} {j : Join}
    (h : j.setOuterAt c outer = j) : JoinRegistry.outerChange? c outer j = none := by
  rw [Join.setOuterAt] at h
  rw [JoinRegistry.outerChange?]
  cases hside : j.sideOf? c with
  | none => rfl
  | some side =>
    rw [hside] at h
    have houter : (j.atSide side).outer = outer := by
      rw [← h]
      cases side <;> rfl
    rw [Option.bind_some, if_pos houter]

theorem Coherent.setJoinOuter_shows (h : q.Coherent) (id : JoinId) (side : Side) (outer : Bool) :
    ShowsAt q (Query.setJoinOuter id side outer q) := by
  by_cases hid : id ∈ q.joins.ids
  · obtain ⟨j, hj, rfl⟩ := h.joins.mem_ids.mp hid
    have hreach := h.setJoinOuter_of_mem hj side outer
    intro hlisted a ha _ hsame
    rw [hreach.2] at hsame hlisted
    -- something is announced only for a join that gets another flag
    rw [Query.setJoinOuter, get_bind, h.joins.setOuter_eq hj] at ha
    generalize (j.atSide side).container = c at ha hsame hlisted
    dsimp only at ha
    rw [modify_bind, announceAll_log fun event hevent => by
      obtain ⟨change, -, rfl⟩ := List.mem_map.mp hevent
      rfl] at ha
    obtain ⟨event, hevent, -⟩ := List.mem_map.mp ha
    obtain ⟨change, hchange, -⟩ := List.mem_map.mp hevent
    obtain ⟨k, hk, hkc⟩ := List.mem_filterMap.mp hchange
    have hfixed : k.setOuterAt c outer = k :=
      fixed_of_map_eq (hsame.joins_eq h.listed hlisted).symm hk
    rw [outerChange?_of_setOuterAt hfixed] at hkc
    exact absurd hkc (by simp)
  · rw [h.setJoinOuter_of_notMem hid]
    exact .of_refused

theorem Coherent.setJoinProperty_shows {β : Type} [DecidableEq β] (h : q.Coherent) (id : JoinId)
    (property : Property) (read : Join → β) {write : β → Join → Join} (show' : β → PropertyValue)
    {new : β} (hnew : ∀ j, read (write new j) = new) :
    ShowsAt q (Query.setJoinProperty id property read write show' new q) := by
  rw [setJoinProperty_apply]
  cases hj : q.joins.get? id with
  | none => exact .of_refused
  | some j =>
    dsimp only
    split
    · exact .of_silent
    · next hne =>
      refine .of_announced fun hlisted hsame => hne ?_
      obtain ⟨hjq, rfl⟩ := JoinRegistry.get?_eq_some hj
      -- equal documents list equal joins, so the join that was written is the one that stood there
      have hfixed := fixed_of_map_eq (hsame.joins_eq h.listed hlisted).symm hjq
      rw [if_pos rfl] at hfixed
      rw [← hfixed, hnew]

/-! ### Settings -/

theorem setSetting_shows {β : Type} [DecidableEq β] (property : Property) {read : Query → β}
    {write : β → Query → Query} (show' : β → PropertyValue) {new : β}
    (hread : ∀ q', (Document.ofQuery q).Same (Document.ofQuery q') → read q = read q')
    (hnew : read (write new q) = new) :
    ShowsAt q (setSetting property read write show' new q) := by
  rw [setSetting_apply]
  split
  · exact .of_silent
  · next hne => exact .of_announced fun _ hsame => hne ((hread _ hsame).trans hnew)

theorem defineOverride_shows (text : String) (q : Query) : ShowsAt q (defineOverride text q) := by
  rw [defineOverride, get_bind]
  split
  · exact setSetting_shows _ _ (fun _ hsame => congrArg Document.userOverride hsame.fields) rfl
  · exact setSetting_shows _ _ (fun _ hsame => congrArg Document.userOverride hsame.fields) rfl

/-! ### Resetting -/

/-- Behind a reset the query holds the built-in constants and nothing else. -/
theorem Coherent.reset_itemIds (h : q.Coherent) (ids : BuiltinIds) :
    (reset ids q).query.items.map (·.id) = ids.toList := by
  have hclosed : ∀ q : Query, q.closed.items = q.items := by
    intro q
    rw [Query.closed]
    split <;> rfl
  rw [(h.reset_blank ids).2, hclosed]
  rfl

theorem Coherent.reset_shows (h : q.Coherent) {ids : BuiltinIds}
    (hfresh : ∀ id ∈ ids.toList, id ∉ q.items.map (·.id)) : ShowsAt q (reset ids q) := by
  refine .of_query fun hlisted hsame => ?_
  have hids := h.reset_itemIds ids
  rw [← hsame.items_eq h.listed hlisted] at hids
  refine hfresh ids.currentTime List.mem_cons_self ?_
  rw [hids]
  exact List.mem_cons_self

end Query

/-! ### Moving an item in the selection -/

/-- An edit that moves a selected item to the place in the selection at which it is. -/
def Edit.StaysPut (e : Edit) (q : Query) : Prop :=
  ∃ id index, e = .moveSelectedItem id index ∧ id ∈ q.selection ∧
    q.selection.idxOf id = min index (q.selection.length - 1)

/-- The identities that an edit draws for the built-in constants are new to the query. -/
def Edit.DrawsFresh (e : Edit) (q : Query) : Prop :=
  ∀ ids, e = .reset ids → ∀ id ∈ ids.toList, id ∉ q.items.map (·.id)

namespace Query

variable {q : Query} {e : Edit}

theorem Coherent.withMoved_selection_iff (h : q.Coherent) {id : ItemId} (hid : id ∈ q.selection)
    (index : Nat) : (q.withMoved id index).selection = q.selection ↔
      q.selection.idxOf id = min index (q.selection.length - 1) := by
  have hlength : (q.selection.erase id).length = q.selection.length - 1 :=
    List.length_erase_of_mem hid
  have hpos : 0 < q.selection.length := List.length_pos_of_mem hid
  rw [withMoved, hlength]
  exact insertIdx_erase_eq_iff h.selection.nodup hid (by omega)

theorem Coherent.moveSelectedItem_shows (h : q.Coherent) {id : ItemId} {index : Nat}
    (hput : ¬ (Edit.moveSelectedItem id index).StaysPut q) :
    ShowsAt q (Query.moveSelectedItem id index q) := by
  by_cases hid : id ∈ q.selection
  · rw [moveSelectedItem_of_mem hid]
    refine .of_announced fun _ hsame => hput ⟨id, index, rfl, hid, ?_⟩
    exact (h.withMoved_selection_iff hid index).mp hsame.selection_eq.symm
  · rw [moveSelectedItem_of_notMem hid]
    exact .of_refused

/-- **An item that stays put is announced as moved**, and the query is as it was. -/
theorem Coherent.change_of_staysPut (h : q.Coherent) (hput : e.StaysPut q) :
    ∃ id index, e.change q = .announced .nothing q (.itemOrderChanged id index) := by
  obtain ⟨id, index, rfl, hid, hplace⟩ := hput
  have hmoved : q.withMoved id index = q :=
    congrArg (fun selection => { q with selection })
      ((h.withMoved_selection_iff hid index).mpr hplace)
  refine ⟨id, min index (q.selection.erase id).length, ?_⟩
  rw [Edit.change, map_apply, moveSelectedItem_of_mem hid, hmoved]
  rfl

theorem isMarker_opening {message : String} : ∀ a ∈ q.opening message, a.event.isMarker = true := by
  intro a ha
  rw [opening] at ha
  split at ha
  · rw [List.mem_singleton.mp ha]
    rfl
  · exact absurd ha List.not_mem_nil

theorem isMarker_closing : ∀ a ∈ q.closing, a.event.isMarker = true := by
  intro a ha
  rw [closing] at ha
  split at ha
  · rcases List.mem_cons.mp ha with rfl | ha
    · rfl
    · split at ha
      · rw [List.mem_singleton.mp ha]
        rfl
      · exact absurd ha List.not_mem_nil
  · exact absurd ha List.not_mem_nil

/-- Whatever an edit is given, the from-list names the tables behind it. -/
theorem Coherent.listed_change (h : q.Coherent) (e : Edit) : (e.change q).query.Listed := by
  by_cases he : e.WellFormed
  · exact (h.change he).listed
  · cases e with
    | addTable c =>
      rw [Edit.change, map_query]
      cases hkind : c.isConstants with
      | true =>
        rw [addTable_of_constants hkind]
        exact h.listed
      | false =>
        by_cases hc : c.id ∈ q.containers.map (·.id)
        · rw [h.addTable_of_mem hkind hc]
          exact h.listed
        · by_cases hitems : ∀ x ∈ c.items, x.id ∉ q.items.map (·.id)
          · rw [h.addTable_of_new hkind hc hitems]
            have hlisted := h.listed.withTable (h.notMem_tableIds hc)
            exact ⟨hlisted.mapped, hlisted.nodup, hlisted.joins⟩
          · push Not at hitems
            obtain ⟨x, hx, hitem⟩ := hitems
            obtain ⟨y, -, hy⟩ := h.addTable_of_item hkind hc hx hitem
            rw [hy]
            exact h.listed
    | reset ids =>
      -- there are no tables behind a reset
      rw [Edit.change, map_query, (h.reset_blank ids).2, Query.closed]
      split <;> exact ⟨rfl, List.nodup_nil, .empty⟩
    | _ => exact absurd trivial he

/-- **Every edit that is announced shows in the document**, but for an item that stays put. -/
theorem Coherent.change_shows (h : q.Coherent) (hfresh : e.DrawsFresh q)
    (hput : ¬ e.StaysPut q) : ShowsAt q (e.change q) := by
  -- what an edit returns does not matter
  cases e <;> refine ShowsAt.map ?_ _
  case startCompoundEdit message =>
    refine .of_markers fun a ha => ?_
    rw [startCompoundEdit_apply] at ha
    exact isMarker_opening a ha
  case endCompoundEdit =>
    refine .of_markers fun a ha => ?_
    rw [endCompoundEdit_apply] at ha
    split at ha
    · exact absurd ha List.not_mem_nil
    · rw [finishCompoundEdit_apply] at ha
      exact isMarker_closing a ha
  case addTable table => exact h.addTable_shows table
  case removeTable id => exact h.removeTable_shows id
  case setContainerAlias id text =>
    exact h.setContainerProperty_shows id _ _ fun _ hsame => decide_eq_true hsame.aliasText_eq
  case setContainerPosition id position =>
    exact h.setContainerProperty_shows id _ _ fun _ hsame => hsame.position
  case addItem container item => exact h.addItem_shows container item
  case insertItem container index item => exact h.insertItem_shows container index item
  case addConstant id text => exact h.addConstant_shows id text
  case removeItem id => exact h.removeItem_shows id
  case setItemSelected id selected => exact h.setItemSelected_shows id selected
  case setSortOrder id order => exact h.setSortOrder_shows id order
  case moveSelectedItem id index => exact h.moveSelectedItem_shows hput
  case renameItem id name => exact renameItem_shows h id name
  case setItemAlias | setItemFilter | setItemHaving | setGroupFunction | setColumnWidth =>
    exact h.setItemProperty_shows _ _ _ _ _ fun _ => rfl
  case addJoin join => exact h.addJoin_shows join
  case joinItems id left right => exact h.joinItems_shows id left right
  case removeJoin id => exact h.removeJoin_shows id
  case setJoinOuter id side outer => exact h.setJoinOuter_shows id side outer
  case setJoinComparator | setJoinName => exact h.setJoinProperty_shows _ _ _ _ fun _ => rfl
  case setName =>
    exact setSetting_shows _ _ (fun _ hsame => congrArg Document.name hsame.fields) rfl
  case setGlobalWhere =>
    exact setSetting_shows _ _ (fun _ hsame => congrArg Document.globalWhere hsame.fields) rfl
  case setGrouping =>
    exact setSetting_shows _ _ (fun _ hsame => congrArg Document.grouping hsame.fields) rfl
  case setRowLimit =>
    exact setSetting_shows _ _ (fun _ hsame => congrArg Document.rowLimit hsame.fields) rfl
  case setStreamingRowLimit =>
    refine setSetting_shows _ _ (fun _ hsame => ?_) rfl
    exact congrArg Document.streamingRowLimit hsame.fields
  case setStreaming =>
    exact setSetting_shows _ _ (fun _ hsame => congrArg Document.streaming hsame.fields) rfl
  case setZoom =>
    exact setSetting_shows _ _ (fun _ hsame => congrArg Document.zoom hsame.fields) rfl
  case setSource source => exact .of_silent
  case defineOverride text => exact defineOverride_shows text q
  case clearOverride =>
    exact setSetting_shows _ _ (fun _ hsame => congrArg Document.userOverride hsame.fields) rfl
  case reset ids => exact h.reset_shows (hfresh ids rfl)

/-! ### What is due -/

/-- A move without a change sets no mark, and only a mark that was set makes the query due. -/
theorem Moves.quiet {e : Option Event} {q' : Query} (h : q.Moves e q')
    (he : ∀ a ∈ e, a.isMarker = true) :
    (q'.pending = true → q.pending = true) ∧ (e = some .canExecute → q.pending = true) := by
  cases h with
  | outside hchange _ hq' =>
    refine ⟨fun hpending => ?_, fun hdue => ?_⟩
    · rw [hq'.2] at hpending
      exact absurd hpending (by simp)
    · exact absurd (hchange .canExecute hdue) (by simp [Event.isMarker])
  | started _ _ _ hunmarked =>
    refine ⟨fun hpending => ?_, fun hdue => absurd hdue (by simp)⟩
    rw [hunmarked] at hpending
    exact absurd hpending (by simp)
  | inside hchange _ _ _ hpending =>
    -- an event here would be no marker
    have hnone : e = none := by
      cases e with
      | none => rfl
      | some a =>
        have hmarker := he a rfl
        rw [hchange a rfl] at hmarker
        exact absurd hmarker (by simp)
    subst hnone
    rw [Option.isSome_none, Bool.or_false] at hpending
    exact ⟨fun hset => hpending ▸ hset, fun hdue => absurd hdue (by simp)⟩
  | ended _ _ hpending => exact ⟨fun hset => hpending ▸ hset, fun hdue => absurd hdue (by simp)⟩
  | due _ hpending _ => exact ⟨fun _ => hpending, fun _ => hpending⟩

theorem Passes.quiet {log : List Announcement} {q' : Query} (h : q.Passes log q')
    (hlog : ∀ a ∈ log, a.event.isMarker = true) :
    (q'.pending = true → q.pending = true) ∧
      ∀ a ∈ log, a.event = .canExecute → q.pending = true := by
  induction log generalizing q with
  | nil =>
    have hend := Moves.quiet h fun _ ha => absurd ha (by simp)
    exact ⟨hend.1, fun _ ha => absurd ha (by simp)⟩
  -- a marker sets no mark, so one that stands after it already stood before
  | cons a log ih =>
    obtain ⟨hfirst, hdue⟩ := Moves.quiet h.1 fun b hb => by
      rw [← Option.mem_some.mp hb]
      exact hlog a List.mem_cons_self
    obtain ⟨hrest, hlater⟩ := ih h.2 fun b hb => hlog b (List.mem_cons_of_mem _ hb)
    refine ⟨fun hpending => hfirst (hrest hpending), fun b hb hb' => ?_⟩
    rcases List.mem_cons.mp hb with rfl | hb
    · exact hdue (congrArg some hb')
    · exact hfirst (hlater b hb hb')

theorem Reachable.settled (h : q.Reachable) : q.Settled := by
  induction h with
  | new name hsupply => exact fun _ => rfl
  | edit _ _ ih => exact (change_follows _ _ ih).1.settled

end Query

namespace Session

/-- **No change, no event, but for one edit.** Take any edit of a query that a history comes to,
with listeners that do not fail.

* The document stays the same and yet a change is announced, if and only if the edit moves a
  selected item to the place in the selection at which it is.
* In that case the query is as it was, but for the mark of an open compound edit.
* Whenever else the document stays the same, the listeners hear of no change. The edit does not make
  the query due to be run, and it is announced as due only if it was due before. -/
theorem unchanged_and_announced_iff {s : Session} (hs : s.query.Reachable) (hbus : s.bus.Quiet)
    {e : Edit} (hfresh : e.DrawsFresh s.query) :
    ((Document.ofQuery s.query).Same (Document.ofQuery (s.perform e).session.query) ∧
        (∃ a ∈ (e.change s.query).log, a.event.isMarker = false) ↔ e.StaysPut s.query) ∧
    (e.StaysPut s.query → (s.perform e).session.query = s.query.noted) ∧
    ((Document.ofQuery s.query).Same (Document.ofQuery (s.perform e).session.query) →
      ¬ e.StaysPut s.query →
        (∀ d ∈ (s.perform e).told, d.event.isMarker = true) ∧
        ((s.perform e).session.query.pending = true → s.query.pending = true) ∧
        ∀ d ∈ (s.perform e).told, d.event = .canExecute → s.query.pending = true) := by
  have h := hs.coherent
  rw [perform_of_quiet hbus]
  dsimp only
  refine ⟨⟨?_, fun hput => ?_⟩, fun hput => ?_, fun hsame hput => ?_⟩
  · rintro ⟨hsame, a, ha, hmarker⟩
    by_contra hput
    exact h.change_shows hfresh hput (h.listed_change e) a ha hmarker hsame
  · obtain ⟨id, index, hchange⟩ := h.change_of_staysPut hput
    rw [hchange]
    exact ⟨.refl _, _, List.mem_singleton.mpr rfl, rfl⟩
  · obtain ⟨id, index, hchange⟩ := h.change_of_staysPut hput
    rw [hchange]
    rfl
  · have hmarkers : ∀ a ∈ (e.change s.query).log, a.event.isMarker = true := by
      intro a ha
      rw [← Bool.not_eq_false]
      exact fun hmarker => h.change_shows hfresh hput (h.listed_change e) a ha hmarker hsame
    obtain ⟨hpending, hdue⟩ := (Query.change_follows e s.query hs.settled).1.quiet hmarkers
    -- what is told is what was announced
    have hheard : ∀ d ∈ ((e.change s.query).log.map (·.event)).flatMap s.bus.deliveries,
        ∃ a ∈ (e.change s.query).log, a.event = d.event := by
      intro d hd
      obtain ⟨event, hevent, hd⟩ := List.mem_flatMap.mp hd
      obtain ⟨a, ha, rfl⟩ := List.mem_map.mp hevent
      obtain ⟨_, -, rfl⟩ := List.mem_map.mp hd
      exact ⟨a, ha, rfl⟩
    refine ⟨fun d hd => ?_, hpending, fun d hd hcan => ?_⟩
    · obtain ⟨a, ha, hevent⟩ := hheard d hd
      exact hevent ▸ hmarkers a ha
    · obtain ⟨a, ha, hevent⟩ := hheard d hd
      exact hdue a ha (hevent.trans hcan)

/-- The sample query inside of a compound edit, with a listener that keeps a log. -/
def bracketed : Session :=
  ((⟨sampleQuery, Bus.log⟩ : Session).perform (.startCompoundEdit "moving")).session

theorem bracketed_reachable : bracketed.query.Reachable := by
  rw [bracketed, perform_session _ Bus.log_quiet]
  exact sampleQuery_reachable.edit trivial

/-- In the sample an item that is selected already is selected once more, of which nobody hears, and
it is moved to its place. -/
theorem unchanged_and_announced_sample :
    bracketed.query.Reachable ∧ bracketed.bus.Quiet ∧
      (Edit.setItemSelected ⟨.ofNat 11⟩ true).DrawsFresh bracketed.query ∧
      (∀ d ∈ (bracketed.perform (.setItemSelected ⟨.ofNat 11⟩ true)).told,
        d.event.isMarker = true) ∧
      (Edit.moveSelectedItem ⟨.ofNat 11⟩ 0).DrawsFresh bracketed.query ∧
      (bracketed.perform (.moveSelectedItem ⟨.ofNat 11⟩ 0)).session.query =
        bracketed.query.noted := by
  have hselect : (Edit.setItemSelected ⟨.ofNat 11⟩ true).DrawsFresh bracketed.query :=
    fun _ hreset => Edit.noConfusion hreset
  have hmove : (Edit.moveSelectedItem ⟨.ofNat 11⟩ 0).DrawsFresh bracketed.query :=
    fun _ hreset => Edit.noConfusion hreset
  refine ⟨bracketed_reachable, Bus.log_quiet, hselect, ?_, hmove, ?_⟩
  · refine ((unchanged_and_announced_iff bracketed_reachable Bus.log_quiet hselect).2.2 ?_ ?_).1
    · exact .refl _
    · rintro ⟨id, index, hmoves, -⟩
      exact Edit.noConfusion hmoves
  · -- the only selected item, moved to its own place
    refine (unchanged_and_announced_iff bracketed_reachable Bus.log_quiet hmove).2.1 ?_
    exact ⟨⟨.ofNat 11⟩, 0, rfl, List.mem_cons_self, rfl⟩

/-- **Moving an item to its place makes the query due.** The document stays the same, and the
listener hears that the order of the items has changed; at the end of the compound edit it hears
that the query may be run. -/
theorem moved_in_place :
    bracketed.query.Reachable ∧ bracketed.bus.Quiet ∧ bracketed.query.pending = false ∧
      Document.ofQuery (bracketed.perform (.moveSelectedItem ⟨.ofNat 11⟩ 0)).session.query =
        Document.ofQuery bracketed.query ∧
      (bracketed.perform (.moveSelectedItem ⟨.ofNat 11⟩ 0)).told.map (·.event) =
        [.itemOrderChanged ⟨.ofNat 11⟩ 0] ∧
      ((bracketed.perform (.moveSelectedItem ⟨.ofNat 11⟩ 0)).session.perform
        .endCompoundEdit).told.map (·.event) = [.compoundEnded "moving", .canExecute] := by
  refine ⟨bracketed_reachable, Bus.log_quiet, rfl, ?_, ?_, ?_⟩
  · rfl
  · rfl
  · rfl

end Session

end VisualQuery
