import VisualQuery.Proofs.Accounts.Log

/-!
# What a failing listener leaves behind

A listener may fail at any event, and then the query stays as it is at that moment
(`Session.stopped_at`). So the query has to be sound whenever something is announced, and not only
when an edit is complete.

It is, with one exception. Every announcement finds a query that the consistency check accepts, and
unless the edit is a reset, every item that a container holds is found. A reset puts the four
built-in constants into their container at once, but lists them in the index one by one, as it
announces them: the constants that are still to be announced are held and not found
(`Session.announced_queries`). A listener that fails there leaves such a query behind for good
(`Session.reset_loses_constants`).
-/

namespace VisualQuery

open Change

namespace Query

variable {q : Query} {ids : BuiltinIds} {listed : List ItemId}

/-- Every item that a container holds is found. -/
def FindsItems (q : Query) : Prop := ∀ x ∈ q.items, q.item? x.id = some x

theorem Coherent.findsItems (h : q.Coherent) : q.FindsItems := fun _ hx => h.item?_of_mem hx

/-! ### While the constants are announced -/

/-- A query that holds the built-in constants and nothing else, of which the index lists some. -/
structure Restoring (ids : BuiltinIds) (listed : List ItemId) (q : Query) : Prop where
  /-- There are no tables. -/
  tables : q.tables = []
  /-- The from-list is empty. -/
  tableIds : q.tableIds = []
  /-- The constants are the built-in ones. -/
  constants : q.constants.items = (Container.builtins ids).map fun x =>
    { x with parent := some q.constants.id }
  /-- The index tells of those that are listed. -/
  index : ∀ x, q.itemIndex.get? x = if x ∈ listed then some q.constants.id else none
  /-- Nothing is selected. -/
  selection : q.selection = []
  /-- Nothing is sorted. -/
  sortList : q.sortList = []
  /-- The joins and their index agree. -/
  joins : q.joins.Coherent
  /-- There are no joins. -/
  unjoined : q.joins.joins = []

namespace Restoring

theorem items_eq (h : Restoring ids listed q) : q.items = q.constants.items := by
  rw [items, containers, h.tables, List.flatMap_singleton]

theorem itemIds_eq (h : Restoring ids listed q) : q.items.map (·.id) = ids.toList := by
  rw [h.items_eq, h.constants, List.map_map]
  rfl

/-- The check does not read the index of items, so it does not miss anything. -/
theorem isConsistent (h : Restoring ids listed q) (hids : ids.toList.Nodup) :
    q.isConsistent = true := by
  have hfrom : q.fromTables = q.tables := by
    rw [fromTables, h.tableIds, h.tables, List.filterMap_nil]
  -- the index is not read by the check, so it holds while the entries are still missing
  refine isConsistent_of_listing hfrom (h.itemIds_eq ▸ hids) ?_ ?_ ?_ h.joins ?_
  · rw [h.selection]
    refine Listing.of_none fun x hx => ?_
    rw [h.items_eq, h.constants] at hx
    exact (builtins_plain (k := { q.constants with items := Container.builtins ids }) rfl hx).1
  · rw [h.sortList]
    exact fun id hid => absurd hid List.not_mem_nil
  · rw [h.sortList]
    exact List.nodup_nil
  · rw [h.unjoined]
    exact fun j hj => absurd hj List.not_mem_nil

theorem item?_eq (h : Restoring ids listed q) (hids : ids.toList.Nodup) {x : Item}
    (hx : x ∈ q.items) : q.item? x.id = if x.id ∈ listed then some x else none := by
  rw [item?, containerOf?, h.index]
  by_cases hlisted : x.id ∈ listed
  · have hself : q.container? q.constants.id = some q.constants := if_pos rfl
    rw [if_pos hlisted, if_pos hlisted, Option.bind_some, hself, Option.bind_some]
    rw [h.items_eq] at hx
    refine (Keyed.find?_eq_some_iff ?_).mpr ⟨hx, rfl⟩
    rw [← h.items_eq, h.itemIds_eq]
    exact hids
  · rw [if_neg hlisted, if_neg hlisted]
    rfl

theorem item?_of_split (h : Restoring ids listed q) (hids : ids.toList.Nodup) {left : List ItemId}
    (hsplit : ids.toList = listed ++ left) {x : Item} (hx : x ∈ q.items) :
    q.item? x.id = if x.id ∈ left then none else some x := by
  have hmem : x.id ∈ listed ++ left := hsplit ▸ h.itemIds_eq ▸ List.mem_map_of_mem hx
  rw [h.item?_eq hids hx]
  by_cases hleft : x.id ∈ left
  · -- no constant is both listed and left
    have hlisted : x.id ∉ listed := fun hlisted =>
      (List.nodup_append.mp (hsplit ▸ hids)).2.2 _ hlisted _ hleft rfl
    rw [if_pos hleft, if_neg hlisted]
  · rw [if_neg hleft, if_pos ((List.mem_append.mp hmem).resolve_right hleft)]

/-- Once everything is taken out and the constants are back, none of them is listed. -/
theorem of_emptied (h : q.Coherent) (htables : q.tables = []) (hconstants : q.constants.items = [])
    (ids : BuiltinIds) : Restoring ids [] (q.restored ids) := by
  rw [h.eq_bare htables hconstants]
  exact ⟨rfl, rfl, rfl, fun _ => rfl, rfl, rfl, .empty, rfl⟩

/-- The step of entering: one more is listed. -/
theorem withEntry (h : Restoring ids listed q) (id : ItemId) :
    Restoring ids (listed ++ [id]) (q.withEntry q.constants.id id).noted := by
  refine ⟨h.tables, h.tableIds, h.constants, fun x => ?_, h.selection, h.sortList, h.joins,
    h.unjoined⟩
  change (q.itemIndex.set id q.constants.id).get? x = _
  rw [ItemIndex.get?_set, h.index]
  by_cases hx : x = id
  · rw [if_pos hx, if_pos (List.mem_append_right _ (List.mem_singleton.mpr hx))]
    rfl
  · have hiff : x ∈ listed ++ [id] ↔ x ∈ listed := by
      rw [List.mem_append, List.mem_singleton, or_iff_left hx]
    rw [if_neg hx]
    exact if_congr hiff.symm rfl rfl

/-- Whenever a constant is announced, it is listed, and so are those before it and no others. -/
theorem moments {left : List ItemId} (h : Restoring ids listed q)
    (hids : ids.toList = listed ++ left) :
    ∀ a ∈ (enterItems q.constants.id left q).log, ∃ entered id rest,
      ids.toList = entered ++ id :: rest ∧ a.event = .itemAdded a.query.constants.id id ∧
        Restoring ids (entered ++ [id]) a.query := by
  -- on the items still to come: at each the listener sees the ones entered so far
  induction left generalizing q listed with
  | nil => exact fun _ ha => absurd ha List.not_mem_nil
  | cons id left ih =>
    intro a ha
    rw [enterItems_cons] at ha
    have hnext := h.withEntry id
    rcases List.mem_cons.mp ha with rfl | ha
    · exact ⟨listed, id, left, hids, rfl, hnext⟩
    · refine ih hnext ?_ a ha
      rw [hids, List.append_assoc]
      rfl

end Restoring

theorem Resets.moments {e : Edit} {start emptied : Query} {before after : List Announcement}
    (h : Resets e start q ids emptied before after) :
    ∀ a ∈ (enterItems emptied.constants.id ids.toList (emptied.restored ids)).log,
      ∃ entered id rest, ids.toList = entered ++ id :: rest ∧
        a.event = .itemAdded a.query.constants.id id ∧ Restoring ids (entered ++ [id]) a.query :=
  (Restoring.of_emptied h.coherent h.tables h.constants ids).moments rfl

end Query

namespace Session

theorem tellAll_failed {bus : Bus} {log : List Announcement} {q : Query}
    (h : (tellAll bus log).2 = some q) : ∃ a ∈ log, q = a.query := by
  induction log with
  | nil => exact absurd h (by simp [tellAll])
  | cons a rest ih =>
    rw [tellAll] at h
    cases hemit : bus.emit a.event with
    | mk told finished =>
      rw [hemit] at h
      -- the first announcement that is not heard out is where the telling ends
      cases finished with
      | false => exact ⟨a, List.mem_cons_self, (Option.some.inj h).symm⟩
      | true =>
        obtain ⟨b, hb, hqb⟩ := ih h
        exact ⟨b, List.mem_cons_of_mem _ hb, hqb⟩

/-- A listener that fails leaves behind what it was told about. -/
theorem stopped_at {s : Session} {e : Edit} (h : (s.perform e).ending = .stopped) :
    ∃ a ∈ (e.change s.query).log, (s.perform e).session.query = a.query := by
  have hfailed : ∀ q, (tellAll s.bus (e.change s.query).log).2 = some q →
      ∃ a ∈ (e.change s.query).log, q = a.query := fun q => tellAll_failed
  rw [perform] at h ⊢
  cases hall : tellAll s.bus (e.change s.query).log with
  | mk told failed =>
    rw [hall] at h hfailed
    cases failed with
    | some q => exact hfailed q rfl
    | none =>
      -- nobody failed, so the edit was made or refused
      dsimp only at h
      split at h <;> exact absurd h (by simp)

/-- **The query is sound whenever something is announced, except while a reset restores the
constants.** For every edit of a query that a history comes to:

* a listener that fails leaves the query of some announcement behind;
* the consistency check accepts the query of every announcement;
* unless the edit is a reset, every item that a container holds is found then;
* a reset announces the built-in constants one after the other. Before and behind that every item is
  found. Meanwhile the items that are held are the four constants, and one of them is found if and
  only if it is not still to be announced. -/
theorem announced_queries {s : Session} (hs : s.query.Reachable) {e : Edit} (he : e.WellFormed) :
    ((s.perform e).ending = .stopped →
      ∃ a ∈ (e.change s.query).log, (s.perform e).session.query = a.query) ∧
    (∀ a ∈ (e.change s.query).log, a.query.isConsistent = true) ∧
    ((∀ ids, e ≠ .reset ids) → ∀ a ∈ (e.change s.query).log, a.query.FindsItems) ∧
    ∀ ids, e = .reset ids → ∃ before block after,
      (e.change s.query).log = before ++ block ++ after ∧
      (∀ a ∈ before ++ after, a.query.FindsItems) ∧
      (∃ c, block.map (·.event) = ids.toList.map (.itemAdded c)) ∧
      ∀ a ∈ block, a.query.items.map (·.id) = ids.toList ∧
        ∃ entered id left, ids.toList = entered ++ id :: left ∧
          a.event = .itemAdded a.query.constants.id id ∧
          ∀ x ∈ a.query.items, a.query.item? x.id = if x.id ∈ left then none else some x := by
  have h := hs.coherent
  refine ⟨stopped_at, fun a ha => ?_, fun hreset a ha => ?_, ?_⟩
  · -- every edit but a reset announces coherent queries only
    by_cases hreset : ∃ ids, e = .reset ids
    · obtain ⟨ids, rfl⟩ := hreset
      obtain ⟨emptied, before, after, hparts⟩ := h.resets (.reset ids) s.query he
      rw [Edit.change, map_apply, hparts.log] at ha
      rcases List.mem_append.mp ha with ha | ha
      · rcases List.mem_append.mp ha with ha | ha
        · exact (hparts.sound_before a ha).isConsistent
        · obtain ⟨entered, id, rest, -, -, hrestoring⟩ := hparts.moments a ha
          exact hrestoring.isConsistent he
      · exact (hparts.sound_after a ha).isConsistent
    · exact ((h.accounted_change he fun ids heq => hreset ⟨ids, heq⟩).sound a ha).isConsistent
  · exact ((h.accounted_change he hreset).sound a ha).findsItems
  · rintro ids rfl
    obtain ⟨emptied, before, after, hparts⟩ := h.resets (.reset ids) s.query he
    -- the block is the part where the index is filled again, one event for each builtin
    refine ⟨before, (Query.enterItems emptied.constants.id ids.toList (emptied.restored ids)).log,
      after, ?_, fun a ha => ?_, ⟨_, Query.enterItems_events _ _ _⟩, fun a ha => ?_⟩
    · rw [Edit.change, map_apply, hparts.log]
    · rcases List.mem_append.mp ha with ha | ha
      · exact (hparts.sound_before a ha).findsItems
      · exact (hparts.sound_after a ha).findsItems
    · obtain ⟨entered, id, left, hsplit, hevent, hrestoring⟩ := hparts.moments a ha
      refine ⟨hrestoring.itemIds_eq, entered, id, left, hsplit, hevent, fun x hx => ?_⟩
      refine hrestoring.item?_of_split he ?_ hx
      rw [hsplit, List.append_assoc]
      rfl

/-- Fresh identities for the built-in constants. -/
def resetIds : BuiltinIds := ⟨⟨.ofNat 101⟩, ⟨.ofNat 102⟩, ⟨.ofNat 103⟩, ⟨.ofNat 104⟩⟩

/-- A new query with a listener that fails when an item is added. -/
def failingSession : Session :=
  ⟨((Query.new "sample").run (IdSupply.after 0)).1, ⟨[⟨0, ⟨"log", some .itemAdded⟩⟩], 1⟩⟩

theorem failingSession_reachable : failingSession.query.Reachable :=
  .new "sample" IdSupply.after_zero_fresh

theorem reset_wellFormed : (Edit.reset resetIds).WellFormed := by
  rw [Edit.WellFormed]
  decide

/-- **A listener that fails while the constants are restored leaves a query behind that has lost
some.** It holds the user constant, and does not find it. -/
theorem reset_loses_constants :
    failingSession.query.Reachable ∧ (Edit.reset resetIds).WellFormed ∧
      (failingSession.perform (.reset resetIds)).ending = .stopped ∧
      ∃ x ∈ (failingSession.perform (.reset resetIds)).session.query.constants.items,
        x.id = resetIds.user ∧
          (failingSession.perform (.reset resetIds)).session.query.item? x.id = none :=
  ⟨failingSession_reachable, reset_wellFormed, rfl, _,
    List.mem_cons_of_mem _ (List.mem_cons_of_mem _ List.mem_cons_self), rfl, rfl⟩

/-- The query that this listener leaves behind is one of those, and it is consistent. -/
theorem announced_queries_failing :
    failingSession.query.Reachable ∧ (Edit.reset resetIds).WellFormed ∧
      (failingSession.perform (.reset resetIds)).ending = .stopped ∧
      (failingSession.perform (.reset resetIds)).session.query.isConsistent = true := by
  have h := announced_queries failingSession_reachable reset_wellFormed
  obtain ⟨a, ha, hquery⟩ := h.1 rfl
  exact ⟨failingSession_reachable, reset_wellFormed, rfl, hquery ▸ h.2.1 a ha⟩

end Session

end VisualQuery
