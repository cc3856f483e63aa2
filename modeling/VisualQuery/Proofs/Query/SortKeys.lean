import Mathlib.Data.List.Dedup
import VisualQuery.Proofs.EventLog
import VisualQuery.Proofs.Query.Undoing
import VisualQuery.Proofs.Query.UniqueItems

/-!
# The order of the sort keys

The sort list is kept up to date by every operation that selects, sorts, adds or removes an item.
None of them looks at the list as a whole: an item that becomes a sort key, or is sorted in another
direction, is put at the end. This module says what the list is after a whole history.

An edit enters items among the sort keys (`Edit.sortEntries`). What this means is read off the flags
of the items and off whether the edit is made, not off the list. The step is that an edit takes some
keys off the list, and puts what it enters at the end (`Query.Coherent.change_resorts`). So the list
after a history is a sublist of all that was entered, each item at its latest entry
(`Query.Coherent.sortList_after`). Which sublist it is, the invariant says: that of the keys.

A key that is not entered anew stays where it is among the others. The only edit that enters an item
that is a key already is the one that sorts it in another direction
(`Query.Coherent.setSortOrder_of_mem_sortEntries`).
-/

namespace VisualQuery

/-! ### Latest occurrences -/

section Latest

variable {α : Type} {l m : List α} {x y : α}

/-- A sublist of a list without repetitions is picked out by its members. -/
theorem eq_filter_of_sublist {p : α → Bool} (h : l.Sublist m) (hnd : m.Nodup)
    (hp : ∀ a ∈ m, p a = true ↔ a ∈ l) : l = m.filter p := by
  have hl : l.filter p = l := List.filter_eq_self.mpr fun a ha => (hp a (h.subset ha)).mpr ha
  have hsub : l.Sublist (m.filter p) := hl ▸ h.filter p
  refine hsub.eq_of_length_le ((List.subperm_of_subset (hnd.filter p) fun a ha => ?_).length_le)
  obtain ⟨ham, hpa⟩ := List.mem_filter.mp ha
  exact (hp a ham).mp hpa

variable [DecidableEq α]

theorem dedup_append_eq (l m : List α) :
    (l ++ m).dedup = l.dedup.filter (· ∉ m) ++ m.dedup := by
  induction l with
  | nil => rfl
  | cons a l ih =>
    rw [List.cons_append]
    by_cases hm : a ∈ m
    · -- the member occurs again behind the list, whether it does within the list or not
      have hdrop : (a :: l).dedup.filter (· ∉ m) = l.dedup.filter (· ∉ m) := by
        by_cases hl : a ∈ l
        · rw [List.dedup_cons_of_mem hl]
        · rw [List.dedup_cons_of_notMem hl, List.filter_cons_of_neg (by simpa using hm)]
      rw [List.dedup_cons_of_mem (List.mem_append_right _ hm), ih, hdrop]
    · by_cases hl : a ∈ l
      · rw [List.dedup_cons_of_mem (List.mem_append_left _ hl), List.dedup_cons_of_mem hl, ih]
      · have hboth : a ∉ l ++ m := fun h => (List.mem_append.mp h).elim hl hm
        rw [List.dedup_cons_of_notMem hboth, List.dedup_cons_of_notMem hl, ih,
          List.filter_cons_of_pos (by simpa using hm), List.cons_append]

/-- Members that occur again are moved to the end. -/
theorem append_sublist_dedup {keys log : List α} (h : keys.Sublist log.dedup)
    (hnd : (keys ++ m).Nodup) : (keys ++ m).Sublist (log ++ m).dedup := by
  have hkeys : keys.filter (· ∉ m) = keys := by
    refine List.filter_eq_self.mpr fun a ha => decide_eq_true fun hm => ?_
    exact List.disjoint_of_nodup_append hnd ha hm
  rw [dedup_append_eq, (List.nodup_append.mp hnd).2.1.dedup, ← hkeys]
  exact (h.filter _).append (List.Sublist.refl m)

/-- **The later of two latest occurrences**: the second member occurs behind the last occurrence of
the first one. -/
def OccursAfter (l : List α) (x y : α) : Prop :=
  ∃ before after, l = before ++ x :: after ∧ x ∉ after ∧ y ∈ after

/-- The members in the order of their latest occurrences. -/
theorem pairwise_dedup (l : List α) : l.dedup.Pairwise (OccursAfter l) := by
  -- an occurrence further on stays one when something is put in front
  have hcons : ∀ (a : α) (l : List α) (x y : α), OccursAfter l x y → OccursAfter (a :: l) x y := by
    rintro a l x y ⟨before, after, rfl, hx, hy⟩
    exact ⟨a :: before, after, rfl, hx, hy⟩
  induction l with
  | nil => exact List.Pairwise.nil
  | cons a l ih =>
    have hrest : l.dedup.Pairwise (OccursAfter (a :: l)) := ih.imp (hcons a l _ _)
    by_cases ha : a ∈ l
    · rw [List.dedup_cons_of_mem ha]
      exact hrest
    · rw [List.dedup_cons_of_notMem ha]
      exact List.pairwise_cons.mpr ⟨fun y hy => ⟨[], l, rfl, ha, List.mem_dedup.mp hy⟩, hrest⟩

/-- Two members keep their order, if they are kept and nothing is put between them. -/
theorem pair_sublist_filter_append {p : α → Bool} (hx : p x = true) (hy : p y = true)
    (hxm : x ∉ m) (hym : y ∉ m) : [x, y].Sublist (l.filter p ++ m) ↔ [x, y].Sublist l := by
  constructor
  · intro h
    -- none of the two is among what is put at the end
    have hpair : [x, y].filter (· ∉ m) = [x, y] := by simp [hxm, hym]
    have hnone : m.filter (· ∉ m) = [] := List.filter_eq_nil_iff.mpr fun a ha => by simpa using ha
    have hleft := h.filter (· ∉ m)
    rw [hpair, List.filter_append, hnone, List.append_nil] at hleft
    exact hleft.trans (List.filter_sublist.trans List.filter_sublist)
  · intro h
    have hpair : [x, y].filter p = [x, y] := by simp [hx, hy]
    exact hpair ▸ (h.filter p).trans (List.sublist_append_left _ _)

end Latest

/-! ### What an edit enters -/

/-- **The items that an edit enters among the sort keys**, in order. An item enters

* when it is selected and has a direction,
* when it is sorted in another direction and is selected,
* when it is added, by itself or with its table, and is selected and sorted already.

An edit that is refused enters nothing. -/
def Edit.sortEntries (q : Query) : Edit → List ItemId
  | .setItemSelected id selected =>
    match q.item? id with
    | some x =>
      if selected = true ∧ x.selected = false ∧ x.sortOrder.isOrdered = true then [id] else []
    | none => []
  | .setSortOrder id order =>
    match q.item? id with
    | some x =>
      if x.sortOrder ≠ order ∧ x.selected = true ∧ order.isOrdered = true then [id] else []
    | none => []
  | .addTable table =>
    if (Query.addTable table q).result.isOk then (table.items.filter Item.isSorted).map (·.id)
    else []
  | .addItem c x => if (Query.addItem c x q).result.isOk ∧ x.isSorted then [x.id] else []
  | .insertItem c index x =>
    if (Query.insertItem c index x q).result.isOk ∧ x.isSorted then [x.id] else []
  | _ => []

namespace Query

/-- The items that a history enters among the sort keys, in order and as often as it does. -/
def sortEntries (q : Query) : List Edit → List ItemId
  | [] => []
  | e :: rest => e.sortEntries q ++ (e.change q).query.sortEntries rest

/-- Some keys are taken off the sort list, and what is entered is put at the end. -/
def Resorts (q : Query) (entered : List ItemId) (q' : Query) : Prop :=
  ∃ kept : ItemId → Bool, q'.sortList = q.sortList.filter kept ++ entered

variable {q q' : Query}

namespace Resorts

theorem of_filter (kept : ItemId → Bool) (h : q'.sortList = q.sortList.filter kept) :
    q.Resorts [] q' := ⟨kept, h.trans (List.append_nil _).symm⟩

theorem of_append {entered : List ItemId} (h : q'.sortList = q.sortList ++ entered) :
    q.Resorts entered q' :=
  ⟨fun _ => true, by rw [h, List.filter_eq_self.mpr fun _ _ => rfl]⟩

theorem of_eq (h : q'.sortList = q.sortList) : q.Resorts [] q' :=
  of_append (h.trans (List.append_nil _).symm)

theorem of_relist {id : ItemId} {on : Bool} (h : q'.sortList = relist id on q.sortList) :
    q.Resorts (if on = true then [id] else []) q' := by
  refine ⟨(· ≠ id), h.trans ?_⟩
  rw [relist]
  cases on with
  | false => exact (List.append_nil _).symm
  | true => rfl

end Resorts

theorem sortList_opened (message : String) (q : Query) :
    (q.opened message).sortList = q.sortList := by
  rw [opened]
  split <;> rfl

theorem sortList_closed (q : Query) : q.closed.sortList = q.sortList := by
  rw [closed]
  split <;> rfl

namespace Coherent

/-! ### Selecting and sorting -/

theorem setItemSelected_resorts (h : q.Coherent) (id : ItemId) (on : Bool) :
    q.Resorts (Edit.sortEntries q (.setItemSelected id on))
      (Query.setItemSelected id on q).query := by
  rw [Edit.sortEntries]
  by_cases hid : id ∈ q.items.map (·.id)
  · obtain ⟨x, hx, rfl⟩ := List.mem_map.mp hid
    rw [h.item?_of_mem hx, h.setItemSelected_of_mem hx]
    dsimp only
    by_cases hsame : x.selected = on
    · have hnone : ¬ (on = true ∧ x.selected = false ∧ x.sortOrder.isOrdered = true) := by
        rintro ⟨hon, hoff, -⟩
        rw [hsame, hon] at hoff
        cases hoff
      rw [if_pos hsame, if_neg hnone]
      exact .of_eq rfl
    · -- the flag was off when it is now turned on, so the entry depends on the order alone
      have hentered : (on = true ∧ x.selected = false ∧ x.sortOrder.isOrdered = true) ↔
          (on && x.sortOrder.isOrdered) = true := by
        rw [Bool.and_eq_true]
        refine ⟨fun hall => ⟨hall.1, hall.2.2⟩, fun ⟨hon, hsorted⟩ => ⟨hon, ?_, hsorted⟩⟩
        rwa [hon, Bool.not_eq_true] at hsame
      rw [if_neg hsame, if_congr hentered rfl rfl]
      exact .of_relist rfl
  · rw [h.housed.item?_eq_none_iff.mpr hid, h.setItemSelected_of_notMem hid]
    exact .of_eq rfl

theorem setSortOrder_resorts (h : q.Coherent) (id : ItemId) (order : SortOrder) :
    q.Resorts (Edit.sortEntries q (.setSortOrder id order))
      (Query.setSortOrder id order q).query := by
  rw [Edit.sortEntries]
  by_cases hid : id ∈ q.items.map (·.id)
  · obtain ⟨x, hx, rfl⟩ := List.mem_map.mp hid
    rw [h.item?_of_mem hx, h.setSortOrder_of_mem hx]
    dsimp only
    by_cases hsame : x.sortOrder = order
    · rw [if_pos hsame, if_neg fun hall => hall.1 hsame]
      exact .of_eq rfl
    · -- the same with flag and order exchanged
      have hentered : (x.sortOrder ≠ order ∧ x.selected = true ∧ order.isOrdered = true) ↔
          (x.selected && order.isOrdered) = true := by
        rw [Bool.and_eq_true]
        exact ⟨fun hall => hall.2, fun hboth => ⟨hsame, hboth⟩⟩
      rw [if_neg hsame, if_congr hentered rfl rfl]
      exact .of_relist rfl
  · rw [h.housed.item?_eq_none_iff.mpr hid, h.setSortOrder_of_notMem hid]
    exact .of_eq rfl

/-! ### Adding -/

theorem insertItem_resorts (h : q.Coherent) (c : ContainerId) (index : Nat) (x : Item) :
    q.Resorts (if (Query.insertItem c index x q).result.isOk ∧ x.isSorted then [x.id] else [])
      (Query.insertItem c index x q).query := by
  -- a refused edit enters nothing and moves nothing, whatever the reason
  have hrefused : ∀ e : QueryError, Query.insertItem c index x q = .refused e q →
      q.Resorts (if (Query.insertItem c index x q).result.isOk ∧ x.isSorted then [x.id] else [])
        (Query.insertItem c index x q).query := by
    intro e he
    have hnone : ¬ ((Outcome.refused e q : Outcome ItemId).result.isOk = true ∧ x.isSorted) :=
      fun hall => Bool.false_ne_true hall.1
    rw [he, if_neg hnone]
    exact .of_eq rfl
  by_cases hx : x.id ∈ q.items.map (·.id)
  · exact hrefused _ (h.insertItem_of_mem hx c index)
  · cases hc : q.container? c with
    | none => exact hrefused _ (h.insertItem_of_unknown hx hc index)
    | some k =>
      obtain ⟨hk, rfl⟩ := h.housed.container?_iff.mp hc
      have hadded := h.insertItem_of_mem_containers hk hx index
      have hok : (Query.insertItem k.id index x q).result.isOk = true := by
        rw [hadded]
        rfl
      rw [if_congr (and_iff_right hok) rfl rfl, hadded]
      refine .of_append ?_
      change (q.withItem k index x).sortList = _
      rw [Query.withItem, enlist_eq]
      rfl

theorem addTable_resorts (h : q.Coherent) (c : Container) :
    q.Resorts (Edit.sortEntries q (.addTable c)) (Query.addTable c q).query := by
  -- as for an item: the reasons for refusing are many, what follows is one
  have hrefused : ∀ e : QueryError, Query.addTable c q = .refused e q →
      q.Resorts (Edit.sortEntries q (.addTable c)) (Query.addTable c q).query := by
    intro e he
    have hnone : ¬ (Outcome.refused e q : Outcome ContainerId).result.isOk = true :=
      Bool.false_ne_true
    rw [Edit.sortEntries, he, if_neg hnone]
    exact .of_eq rfl
  cases hkind : c.isConstants with
  | true => exact hrefused _ (addTable_of_constants hkind)
  | false =>
    by_cases hc : c.id ∈ q.containers.map (·.id)
    · exact hrefused _ (h.addTable_of_mem hkind hc)
    · by_cases hitems : ∀ x ∈ c.items, x.id ∉ q.items.map (·.id)
      · have hadded := h.addTable_of_new hkind hc hitems
        have hok : (Query.addTable c q).result.isOk = true := by
          rw [hadded]
          rfl
        rw [Edit.sortEntries, if_pos hok, hadded]
        refine .of_append ?_
        change (q.withTable c).sortList = _
        rw [Query.withTable, foldl_enlist]
      · push Not at hitems
        obtain ⟨x, hx, hitem⟩ := hitems
        obtain ⟨y, -, hy⟩ := h.addTable_of_item hkind hc hx hitem
        exact hrefused _ hy

/-! ### Edits that enter nothing -/

theorem setItemProperty_resorts {β : Type} [DecidableEq β] (h : q.Coherent) (id : ItemId)
    (property : Property) (read : Item → β) (write : β → Item → Item) (show' : β → PropertyValue)
    (new : β) :
    q.Resorts [] (Query.setItemProperty id property read write show' new q).query := by
  by_cases hid : id ∈ q.items.map (·.id)
  · obtain ⟨x, hx, rfl⟩ := List.mem_map.mp hid
    rw [h.setItemProperty_of_mem hx]
    split <;> exact .of_eq rfl
  · rw [h.setItemProperty_of_notMem hid]
    exact .of_eq rfl

theorem removeItem_resorts (h : q.Coherent) (id : ItemId) :
    q.Resorts [] (Query.removeItem id q).query := by
  by_cases hid : id ∈ q.items.map (·.id)
  · obtain ⟨x, hx, rfl⟩ := List.mem_map.mp hid
    rw [(h.removeItem_of_mem hx).2]
    -- as with a table: the removal keeps the keys of all other items
    refine .of_filter (· ≠ x.id) ?_
    rw [sortList_closed]
    change ((q.opened _).sortList.filter _) = _
    rw [sortList_opened]
  · rw [h.removeItem_of_notMem hid]
    exact .of_eq rfl

theorem removeTable_resorts (h : q.Coherent) (id : ContainerId) :
    q.Resorts [] (Query.removeTable id q).query := by
  by_cases hne : id = q.constants.id
  · rw [hne, removeTable_of_constants]
    exact .of_eq rfl
  · cases hid : q.table? id with
    | none =>
      rw [removeTable_of_none hne hid]
      exact .of_eq rfl
    | some k =>
      obtain ⟨hk, rfl⟩ := h.housed.table?_iff.mp hid
      rw [(h.removeTable_of_mem hk).2]
      -- removal never enters a key, it only keeps those that are not the table's
      refine .of_filter (· ∉ k.items.map (·.id)) ?_
      rw [sortList_closed]
      change ((q.opened _).sortList.filter _) = _
      rw [sortList_opened]

theorem reset_resorts (h : q.Coherent) (ids : BuiltinIds) :
    q.Resorts [] (Query.reset ids q).query := by
  rw [(h.reset_blank ids).2]
  refine .of_filter (fun _ => false) ?_
  rw [sortList_closed, List.filter_eq_nil_iff.mpr fun _ _ => Bool.false_ne_true]
  rfl

theorem setJoinOuter_resorts (h : q.Coherent) (id : JoinId) (side : Side) (outer : Bool) :
    q.Resorts [] (Query.setJoinOuter id side outer q).query := by
  by_cases hid : id ∈ q.joins.ids
  · obtain ⟨j, hj, rfl⟩ := h.joins.mem_ids.mp hid
    rw [(h.setJoinOuter_of_mem hj side outer).2]
    exact .of_eq rfl
  · rw [h.setJoinOuter_of_notMem hid]
    exact .of_eq rfl

end Coherent

theorem setSetting_resorts {β : Type} [DecidableEq β] (property : Property) (read : Query → β)
    {write : β → Query → Query} (show' : β → PropertyValue) {new : β}
    (hwrite : (write new q).sortList = q.sortList) :
    q.Resorts [] (setSetting property read write show' new q).query := by
  rw [setSetting_apply]
  split
  · exact .of_eq rfl
  · exact .of_eq hwrite

theorem setJoinProperty_resorts {β : Type} [DecidableEq β] (id : JoinId) (property : Property)
    (read : Join → β) (write : β → Join → Join) (show' : β → PropertyValue) (new : β) :
    q.Resorts [] (setJoinProperty id property read write show' new q).query := by
  rw [setJoinProperty_apply]
  cases q.joins.get? id with
  | none => exact .of_eq rfl
  | some j =>
    dsimp only
    split <;> exact .of_eq rfl

theorem addJoin_resorts (j : Join) : q.Resorts [] (addJoin j q).query := by
  rw [addJoin_apply]
  cases q.endError? j.id j.left with
  | some cause => exact .of_eq rfl
  | none =>
    cases q.endError? j.id j.right with
    | some cause => exact .of_eq rfl
    | none =>
      cases q.joins.add j with
      | error cause => exact .of_eq rfl
      | ok added => exact .of_eq rfl

theorem joinItems_resorts (id : JoinId) (left right : ItemId) :
    q.Resorts [] (joinItems id left right q).query := by
  rw [joinItems_apply]
  cases q.itemIndex.get? left with
  | none => exact .of_eq rfl
  | some c =>
    cases q.itemIndex.get? right with
    | none => exact .of_eq rfl
    | some d => exact addJoin_resorts _

theorem removeJoin_resorts (id : JoinId) : q.Resorts [] (removeJoin id q).query := by
  cases hj : q.joins.get? id with
  | none =>
    rw [removeJoin_of_notMem hj]
    exact .of_eq rfl
  | some j =>
    rw [removeJoin_of_get? hj]
    exact .of_eq rfl

theorem sortList_modifyContainer (id : ContainerId) (f : Container → Container) (q : Query) :
    (q.modifyContainer id f).sortList = q.sortList := by
  rw [modifyContainer]
  split <;> rfl

theorem setContainerProperty_resorts {β : Type} (id : ContainerId) (property : Property)
    (read : Container → β) (same : β → β → Bool) (write : β → Container → Container)
    (show' : β → PropertyValue) (new : β) :
    q.Resorts [] (setContainerProperty id property read same write show' new q).query := by
  cases hk : q.container? id with
  | none =>
    rw [setContainerProperty_of_none _ _ _ _ _ _ hk]
    exact .of_eq rfl
  | some k =>
    rw [setContainerProperty_of_some _ _ _ _ _ _ hk]
    split
    · exact .of_eq rfl
    · exact .of_eq (sortList_modifyContainer id _ q)

theorem moveSelectedItem_resorts (id : ItemId) (index : Nat) :
    q.Resorts [] (moveSelectedItem id index q).query := by
  by_cases hid : id ∈ q.selection
  · rw [moveSelectedItem_of_mem hid]
    exact .of_eq rfl
  · rw [moveSelectedItem_of_notMem hid]
    exact .of_eq rfl

/-! ### A whole history -/

/-- **The step.** An edit takes some keys off the sort list and puts what it enters at the end. -/
theorem Coherent.change_resorts (h : q.Coherent) (e : Edit) :
    q.Resorts (e.sortEntries q) (e.change q).query := by
  cases e <;> rw [Edit.change, Change.map_query]
  case startCompoundEdit message =>
    rw [startCompoundEdit_apply]
    exact .of_eq (sortList_opened message q)
  case endCompoundEdit =>
    rw [endCompoundEdit_apply]
    split
    · exact .of_eq rfl
    · rw [(finishCompoundEdit_reaches q).2]
      exact .of_eq (sortList_closed q)
  case addTable table => exact h.addTable_resorts table
  case removeTable id => exact h.removeTable_resorts id
  case setContainerAlias | setContainerPosition =>
    exact setContainerProperty_resorts _ _ _ _ _ _ _
  case addItem c x =>
    rw [Edit.sortEntries, addItem_apply]
    exact h.insertItem_resorts c _ x
  case insertItem c index x => exact h.insertItem_resorts c index x
  case addConstant id text =>
    rw [addConstant_apply]
    split
    · exact .of_eq rfl
    · -- a constant is added without being selected
      rw [addItem_apply]
      have hadd := h.insertItem_resorts q.constants.id
        (((q.container? q.constants.id).map (·.items.length)).getD 0)
        (.constant id (Text.trim text))
      rwa [if_neg fun hall => Bool.false_ne_true hall.2] at hadd
  case removeItem id => exact h.removeItem_resorts id
  case setItemSelected id selected => exact h.setItemSelected_resorts id selected
  case setSortOrder id order => exact h.setSortOrder_resorts id order
  case moveSelectedItem id index => exact moveSelectedItem_resorts id index
  case renameItem id name =>
    rw [Query.renameItem]
    split
    · rw [Change.bind_of_refused (Change.refuse_apply _ q)]
      exact .of_eq rfl
    · exact h.setItemProperty_resorts id _ _ _ _ _
  case setItemAlias id text => exact h.setItemProperty_resorts id _ _ _ _ _
  case setItemFilter id text => exact h.setItemProperty_resorts id _ _ _ _ _
  case setItemHaving id text => exact h.setItemProperty_resorts id _ _ _ _ _
  case setGroupFunction id f => exact h.setItemProperty_resorts id _ _ _ _ _
  case setColumnWidth id width => exact h.setItemProperty_resorts id _ _ _ _ _
  case addJoin join => exact addJoin_resorts join
  case joinItems id left right => exact joinItems_resorts id left right
  case removeJoin id => exact removeJoin_resorts id
  case setJoinOuter id side outer => exact h.setJoinOuter_resorts id side outer
  case setJoinComparator id comparator => exact setJoinProperty_resorts id _ _ _ _ _
  case setJoinName id name => exact setJoinProperty_resorts id _ _ _ _ _
  case setName name => exact setSetting_resorts _ _ _ rfl
  case setGlobalWhere text => exact setSetting_resorts _ _ _ rfl
  case setGrouping on => exact setSetting_resorts _ _ _ rfl
  case setRowLimit limit => exact setSetting_resorts _ _ _ rfl
  case setStreamingRowLimit limit => exact setSetting_resorts _ _ _ rfl
  case setStreaming on => exact setSetting_resorts _ _ _ rfl
  case setZoom zoom => exact setSetting_resorts _ _ _ rfl
  case setSource source => exact .of_eq rfl
  case defineOverride text =>
    rw [Query.defineOverride, Change.get_bind]
    split
    · exact setSetting_resorts _ _ _ rfl
    · exact setSetting_resorts _ _ _ rfl
  case clearOverride => exact setSetting_resorts _ _ _ rfl
  case reset ids => exact h.reset_resorts ids

/-- **The run.** If the sort list is made of the latest occurrences of a log, it still is when a
history has added its entries to the log. -/
theorem Coherent.sortList_after (h : q.Coherent) {edits : List Edit}
    (hedits : ∀ e ∈ edits, e.WellFormed) {log : List ItemId} (hlog : q.sortList.Sublist log.dedup) :
    (q.after edits).sortList.Sublist (log ++ q.sortEntries edits).dedup := by
  -- the log so far is generalized: each edit appends to it what it enters
  induction edits generalizing q log with
  | nil =>
    rw [Query.sortEntries, List.append_nil]
    exact hlog
  | cons e rest ih =>
    have hcoh := h.change (hedits e List.mem_cons_self)
    obtain ⟨kept, hsort⟩ := h.change_resorts e
    have hstep : (e.change q).query.sortList.Sublist (log ++ e.sortEntries q).dedup := by
      have hnd := hcoh.sortList.nodup
      rw [hsort] at hnd ⊢
      exact append_sublist_dedup (List.filter_sublist.trans hlog) hnd
    rw [after_cons, Query.sortEntries, ← List.append_assoc]
    exact ih hcoh (fun e he => hedits e (List.mem_cons_of_mem _ he)) hstep

/-- The sort list holds the keys that there are. -/
theorem Coherent.isSortKey_iff (h : q.Coherent) (id : ItemId) :
    q.isSortKey id = true ↔ id ∈ q.sortList := by
  rw [isSortKey]
  by_cases hid : id ∈ q.items.map (·.id)
  · obtain ⟨x, hx, rfl⟩ := List.mem_map.mp hid
    rw [h.item?_of_mem hx, h.mem_sortList hx]
    rfl
  · rw [h.housed.item?_eq_none_iff.mpr hid]
    exact ⟨fun hfalse => absurd hfalse Bool.false_ne_true,
      fun hmem => absurd (h.sortList.mem_ids hmem) hid⟩

/-! ### Keys that are not entered anew -/

/-- What is added is new, so it is no key yet. -/
theorem Coherent.notMem_sortList (h : q.Coherent) {id : ItemId} (hid : id ∉ q.items.map (·.id)) :
    id ∉ q.sortList := fun hmem => hid (h.sortList.mem_ids hmem)

theorem Coherent.notMem_of_insertItem (h : q.Coherent) {c : ContainerId} {index : Nat} {x : Item}
    (hok : (Query.insertItem c index x q).result.isOk = true) : x.id ∉ q.sortList := by
  refine h.notMem_sortList fun hx => ?_
  rw [h.insertItem_of_mem hx] at hok
  exact Bool.false_ne_true hok

theorem Coherent.notMem_of_addTable (h : q.Coherent) {c : Container}
    (hok : (Query.addTable c q).result.isOk = true) {x : Item} (hx : x ∈ c.items) :
    x.id ∉ q.sortList := by
  cases hr : (Query.addTable c q).result with
  | error cause =>
    rw [hr] at hok
    exact absurd hok Bool.false_ne_true
  | ok id => exact h.notMem_sortList ((h.addTable_of_ok hr).2.2.1 x hx)

/-- **The only edit that enters a key anew is the one that sorts it in another direction.** -/
theorem Coherent.setSortOrder_of_mem_sortEntries (h : q.Coherent) {id : ItemId}
    (hkey : id ∈ q.sortList) {e : Edit} (hentered : id ∈ e.sortEntries q) :
    ∃ order, e = .setSortOrder id order ∧ ∀ x ∈ q.items, x.id = id → x.sortOrder ≠ order := by
  have hif : ∀ {p : Prop} [Decidable p] {ids : List ItemId}, id ∈ (if p then ids else []) →
      p ∧ id ∈ ids := by
    intro p _ ids hmem
    split at hmem
    · next hp => exact ⟨hp, hmem⟩
    · exact absurd hmem List.not_mem_nil
  cases e <;> rw [Edit.sortEntries] at hentered
  case setItemSelected id' on =>
    cases hx : q.item? id' with
    | none =>
      rw [hx] at hentered
      exact absurd hentered List.not_mem_nil
    | some x =>
      rw [hx] at hentered
      obtain ⟨⟨-, hoff, -⟩, hid⟩ := hif hentered
      obtain ⟨hxq, rfl⟩ := h.housed.item?_iff.mp hx
      -- a key is selected already
      rw [List.mem_singleton.mp hid, h.mem_sortList hxq, Item.isSorted, hoff] at hkey
      exact absurd hkey Bool.false_ne_true
  case setSortOrder id' order =>
    cases hx : q.item? id' with
    | none =>
      rw [hx] at hentered
      exact absurd hentered List.not_mem_nil
    | some x =>
      rw [hx] at hentered
      obtain ⟨⟨hne, -, -⟩, hid⟩ := hif hentered
      obtain ⟨hxq, rfl⟩ := h.housed.item?_iff.mp hx
      obtain rfl := List.mem_singleton.mp hid
      exact ⟨order, rfl, fun y hy hyx => h.housed.eq_of_itemId hy hxq hyx ▸ hne⟩
  case addTable table =>
    obtain ⟨hok, hid⟩ := hif hentered
    obtain ⟨x, hx, rfl⟩ := List.mem_map.mp hid
    exact absurd hkey (h.notMem_of_addTable hok (List.mem_of_mem_filter hx))
  case addItem c x =>
    obtain ⟨⟨hok, -⟩, hid⟩ := hif hentered
    rw [addItem_apply] at hok
    exact absurd (List.mem_singleton.mp hid ▸ hkey) (h.notMem_of_insertItem hok)
  case insertItem c index x =>
    obtain ⟨⟨hok, -⟩, hid⟩ := hif hentered
    exact absurd (List.mem_singleton.mp hid ▸ hkey) (h.notMem_of_insertItem hok)
  all_goals exact absurd hentered List.not_mem_nil

/-- **Two keys keep their order** over any edit behind which both are keys still, unless it sorts
one of them in another direction. -/
theorem Coherent.pair_sublist_change (h : q.Coherent) {e : Edit} {x y : ItemId}
    (hx : x ∈ q.sortList) (hy : y ∈ q.sortList) (hx' : x ∈ (e.change q).query.sortList)
    (hy' : y ∈ (e.change q).query.sortList)
    (he : ∀ z order, e = .setSortOrder z order → z = x ∨ z = y →
      ∃ i ∈ q.items, i.id = z ∧ i.sortOrder = order) :
    [x, y].Sublist (e.change q).query.sortList ↔ [x, y].Sublist q.sortList := by
  -- neither of the two is entered by the edit
  have hold : ∀ z, z ∈ q.sortList → z = x ∨ z = y → z ∉ e.sortEntries q := by
    intro z hz hxy hentered
    obtain ⟨order, hset, hne⟩ := h.setSortOrder_of_mem_sortEntries hz hentered
    obtain ⟨i, hi, hid, horder⟩ := he z order hset hxy
    exact hne i hi hid horder
  obtain ⟨kept, hsort⟩ := h.change_resorts e
  rw [hsort] at hx' hy' ⊢
  have hkept : ∀ z, z ∈ q.sortList.filter kept ++ e.sortEntries q → z ∉ e.sortEntries q →
      kept z = true := fun z hz hnot =>
    (List.mem_filter.mp ((List.mem_append.mp hz).resolve_right hnot)).2
  have hxm := hold x hx (Or.inl rfl)
  have hym := hold y hy (Or.inr rfl)
  exact pair_sublist_filter_append (hkept x hx' hxm) (hkept y hy' hym) hxm hym

end Query

namespace Session

open Query

/-- **The sort list is ordered by the latest entries.** Whatever edits are made on a new query, in
whatever order and whether they are made or refused, under listeners that do not fail:

* the sort list is the list of all that was entered among the keys, each item at its latest entry,
  without the items that are no keys any more (`Edit.sortEntries` says what an edit enters);
* so it names exactly the selected items that have a direction, each once, and
* of two keys the one comes first behind whose latest entry the other one was entered.

Setting the direction that an item has already, moving it in the selection, and any change to other
items do not enter it. So two keys keep their order over any edit behind which both are keys still,
unless it sorts one of them in another direction. -/
theorem run_sortList (name : String) {supply : IdSupply} (hsupply : supply.Fresh 6) {bus : Bus}
    (hbus : bus.Quiet) {edits : List Edit} (hedits : ∀ e ∈ edits, e.WellFormed) {s : Session}
    (hs : run ⟨((Query.new name).run supply).1, bus⟩ edits = s) {entered : List ItemId}
    (hentered : ((Query.new name).run supply).1.sortEntries edits = entered) :
    s.query.sortList = entered.dedup.filter s.query.isSortKey ∧
    (s.query.sortList.Nodup ∧ ∀ id, id ∈ s.query.sortList ↔
      ∃ x ∈ s.query.items, x.id = id ∧ x.selected = true ∧ x.sortOrder.isOrdered = true) ∧
    s.query.sortList.Pairwise (fun x y =>
      ∃ before after, entered = before ++ x :: after ∧ x ∉ after ∧ y ∈ after) ∧
    ∀ (e : Edit) (x y : ItemId), x ∈ s.query.sortList → y ∈ s.query.sortList →
      x ∈ (s.perform e).session.query.sortList → y ∈ (s.perform e).session.query.sortList →
      (∀ z order, e = .setSortOrder z order → z = x ∨ z = y →
        ∃ i ∈ s.query.items, i.id = z ∧ i.sortOrder = order) →
      ([x, y].Sublist (s.perform e).session.query.sortList ↔ [x, y].Sublist s.query.sortList) := by
  have hnew := coherent_new name hsupply
  rw [run_of_quiet hbus] at hs
  obtain rfl := hs
  have h := hnew.after hedits
  -- a new query has no keys, so the log starts empty and consists of the entries alone
  have hsub : (((Query.new name).run supply).1.after edits).sortList.Sublist entered.dedup := by
    have hnone : ((Query.new name).run supply).1.sortList.Sublist ([] : List ItemId).dedup :=
      List.Sublist.slnil
    have hafter := hnew.sortList_after hedits hnone
    rwa [List.nil_append, hentered] at hafter
  have hsorted : ∀ x : Item, x.isSorted = true ↔
      x.selected = true ∧ x.sortOrder.isOrdered = true := fun x => Bool.and_eq_true_iff
  -- a sublist without repetitions is determined by its members
  refine ⟨eq_filter_of_sublist hsub (List.nodup_dedup entered) fun id _ => h.isSortKey_iff id,
    ⟨h.sortList.nodup, fun id => ?_⟩, (pairwise_dedup entered).sublist hsub,
    fun e x y hx hy hx' hy' he => ?_⟩
  · rw [h.sortList.mem_iff]
    simp only [hsorted]
  · rw [perform_session _ hbus] at hx' hy' ⊢
    exact h.pair_sublist_change hx hy hx' hy' he

/-- The sample history with another key. The first one is sorted in another direction, the other one
is taken out of the selection and comes back, and a table brings a third one. -/
def resorting : List Edit :=
  Edit.sample ++
    [.setItemSelected ⟨.ofNat 21⟩ true,
      .setSortOrder ⟨.ofNat 21⟩ .descending,
      .setSortOrder ⟨.ofNat 22⟩ .descending,
      .setItemSelected ⟨.ofNat 21⟩ false,
      .setItemSelected ⟨.ofNat 21⟩ true,
      .addTable lateTable]

/-- The session that this history leads to. -/
def resorted : Session := run ⟨((Query.new "sample").run (IdSupply.after 0)).1, .log⟩ resorting

/-- The first two keys were entered twice, so the first entry of neither counts. Sorting the first
one in the direction that it has does not move it. -/
theorem run_sortList_resorting :
    (∀ e ∈ resorting, e.WellFormed) ∧
      ((Query.new "sample").run (IdSupply.after 0)).1.sortEntries resorting =
        [⟨.ofNat 22⟩, ⟨.ofNat 21⟩, ⟨.ofNat 22⟩, ⟨.ofNat 21⟩, ⟨.ofNat 51⟩] ∧
      resorted.query.sortList = [⟨.ofNat 22⟩, ⟨.ofNat 21⟩, ⟨.ofNat 51⟩] ∧
      [⟨.ofNat 22⟩, ⟨.ofNat 51⟩].Sublist
        (resorted.perform (.setSortOrder ⟨.ofNat 22⟩ .descending)).session.query.sortList := by
  have hedits : ∀ e ∈ resorting, e.WellFormed := by
    intro e he
    rcases List.mem_append.mp he with he | he
    · exact Edit.sample_wellFormed e he
    · -- of the edits behind the sample, the last one adds a table
      simp only [List.mem_cons, List.not_mem_nil, or_false] at he
      rcases he with rfl | rfl | rfl | rfl | rfl | rfl
      case inr.inr.inr.inr.inr =>
        show (lateTable.items.map (·.id)).Nodup
        decide
      all_goals trivial
  have hentered : ((Query.new "sample").run (IdSupply.after 0)).1.sortEntries resorting =
      [⟨.ofNat 22⟩, ⟨.ofNat 21⟩, ⟨.ofNat 22⟩, ⟨.ofNat 21⟩, ⟨.ofNat 51⟩] := by decide
  obtain ⟨hlist, -, -, hkeep⟩ := run_sortList "sample" IdSupply.after_zero_fresh Bus.log_quiet
    hedits (s := resorted) rfl hentered
  have hkeys : resorted.query.sortList = [⟨.ofNat 22⟩, ⟨.ofNat 21⟩, ⟨.ofNat 51⟩] := by
    rw [hlist]
    decide +kernel
  refine ⟨hedits, hentered, hkeys, ?_⟩
  refine (hkeep _ _ _ (by rw [hkeys]; decide) (by rw [hkeys]; decide) (by decide +kernel)
    (by decide +kernel) ?_).mpr (by rw [hkeys]; decide)
  intro z order hset _
  -- the edit names the item and the direction that it has
  obtain ⟨rfl, rfl⟩ := Edit.setSortOrder.inj hset
  decide +kernel

end Session

end VisualQuery
