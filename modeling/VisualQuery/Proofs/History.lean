import VisualQuery.Proofs.Query.Adding
import VisualQuery.Proofs.Query.Joins
import VisualQuery.Proofs.Query.Settings
import VisualQuery.Session

/-!
# Histories of edits

A history starts with a new query and goes on with edits, each of which is made or refused. Every
query that a history comes to has the invariant (`Reachable.coherent`): a new query has it
(`coherent_new`), and every edit keeps it (`Coherent.change`), for which there is one lemma for each
kind of edit in the modules before this one.

Two things are asked of the caller. Identifiers that are drawn or passed as fresh ones differ from
each other, and a table that is added does not have two items with one identity
(`Edit.WellFormed`). Nothing is asked about what else is passed: an edit with an unknown or a taken
identity is refused, and a refused edit is part of the history as well.

A session tells its listeners of every change and stops at the first one that fails. As long as none
fails, the session is at the query that the changes lead to (`Session.perform_query`).
-/

namespace VisualQuery

/-! ### What is asked of the caller -/

/-- The next identifiers that are drawn, `n` of them, differ from each other. -/
def IdSupply.Fresh (supply : IdSupply) (n : Nat) : Prop :=
  ((List.range n).map fun i => supply.sequence (supply.next + i)).Nodup

/-- What is asked of an edit: the items of a table and fresh identities differ from each other. -/
def Edit.WellFormed : Edit → Prop
  | .addTable table => (table.items.map (·.id)).Nodup
  | .reset ids => ids.toList.Nodup
  | _ => True

/-- A short history: a table with a selected column, another one that is joined to it and sorted by,
a third one that is joined to neither, and an edit that is refused. -/
def Edit.sample : List Edit :=
  let item (n : Nat) : ItemId := ⟨.ofNat n⟩
  [.addTable { Container.table ⟨.ofNat 10⟩ "orders" with
      items := [{ Item.column (item 11) "number" with selected := true },
        Item.column (item 12) "customer"] },
    .addTable { Container.table ⟨.ofNat 20⟩ "customers" with
      items := [Item.column (item 21) "number", Item.column (item 22) "name"] },
    .joinItems ⟨.ofNat 30⟩ (item 12) (item 21),
    .setItemSelected (item 22) true,
    .setSortOrder (item 22) .ascending,
    .addTable (Container.table ⟨.ofNat 40⟩ "regions"),
    .removeItem (item 50)]

theorem IdSupply.after_zero_fresh : (IdSupply.after 0).Fresh 6 := by
  rw [Fresh]
  decide

theorem Edit.sample_wellFormed : ∀ e ∈ Edit.sample, e.WellFormed := by
  have hids : Uuid.ofNat 11 ≠ Uuid.ofNat 12 ∧ Uuid.ofNat 21 ≠ Uuid.ofNat 22 := by decide
  simpa [Edit.sample, Edit.WellFormed, Container.table, Item.column, Item.plain] using hids

/-! ### New queries -/

namespace Query

/-- A new query draws six identifiers, the last four of them for its constants. -/
theorem new_run (name : String) (supply : IdSupply) :
    ((Query.new name).run supply).1 =
      onConstants ⟨supply.sequence supply.next⟩ name
        (Container.constants ⟨supply.sequence (supply.next + 1)⟩
          { currentTime := ⟨supply.sequence (supply.next + 2)⟩
            currentDate := ⟨supply.sequence (supply.next + 3)⟩
            user := ⟨supply.sequence (supply.next + 4)⟩
            countStar := ⟨supply.sequence (supply.next + 5)⟩ }) := rfl

/-- **A new query has the invariant.** -/
theorem coherent_new (name : String) {supply : IdSupply} (hsupply : supply.Fresh 6) :
    ((Query.new name).run supply).1.Coherent := by
  rw [new_run]
  refine coherent_onConstants _ name rfl rfl ?_
  -- the constants get the last four of the identifiers that were drawn
  have hdrawn : ([2, 3, 4, 5].map fun i => supply.sequence (supply.next + i)).Nodup := by
    refine hsupply.sublist (List.Sublist.map _ ?_)
    decide
  exact hdrawn.map (f := ItemId.mk) fun a b hab => ItemId.mk.inj hab

/-! ### Every edit keeps the invariant -/

variable {q : Query}

/-- **The step of a history.** Every edit keeps the invariant, whether it is made or refused. -/
theorem Coherent.change (h : q.Coherent) {e : Edit} (he : e.WellFormed) :
    (e.change q).query.Coherent := by
  -- what an edit returns does not matter
  cases e <;> rw [Edit.change, Change.map_query]
  case startCompoundEdit message => exact h.startCompoundEdit message
  case endCompoundEdit => exact h.endCompoundEdit
  case addTable table => exact h.addTable table he
  case removeTable id => exact h.removeTable id
  case setContainerAlias | setContainerPosition =>
    exact h.setContainerProperty _ _ _ _ _ _ fun _ => ⟨rfl, rfl, rfl⟩
  case addItem container item => exact h.addItem container item
  case insertItem container index item => exact h.insertItem container index item
  case addConstant id text => exact h.addConstant id text
  case removeItem id => exact h.removeItem id
  case setItemSelected id selected => exact h.setItemSelected id selected
  case setSortOrder id order => exact h.setSortOrder id order
  case moveSelectedItem id index => exact h.moveSelectedItem id index
  case renameItem id name => exact h.renameItem id name
  case setItemAlias id text => exact h.setItemProperty id _ _ _ _ fun _ => ⟨rfl, rfl, rfl, rfl⟩
  case setItemFilter id text => exact h.setItemProperty id _ _ _ _ fun _ => ⟨rfl, rfl, rfl, rfl⟩
  case setItemHaving id text => exact h.setItemProperty id _ _ _ _ fun _ => ⟨rfl, rfl, rfl, rfl⟩
  case setGroupFunction id f => exact h.setItemProperty id _ _ _ _ fun _ => ⟨rfl, rfl, rfl, rfl⟩
  case setColumnWidth id width => exact h.setItemProperty id _ _ _ _ fun _ => ⟨rfl, rfl, rfl, rfl⟩
  case addJoin join => exact h.addJoin join
  case joinItems id left right => exact h.joinItems id left right
  case removeJoin id => exact h.removeJoin id
  case setJoinOuter id side outer => exact h.setJoinOuter id side outer
  case setJoinComparator id comparator =>
    refine h.setJoinProperty id _ _ _ _ ?_
    exact fun _ => ⟨rfl, rfl, rfl⟩
  case setJoinName id name =>
    refine h.setJoinProperty id _ _ _ _ ?_
    exact fun _ => ⟨rfl, rfl, rfl⟩
  case setName name =>
    refine h.setSetting _ _ _ ?_
    exact h.congr rfl rfl rfl rfl rfl rfl rfl h.globalWhere
  case setGlobalWhere text => exact h.setSetting _ _ _ (h.withGlobalWhere text)
  case setGrouping on => exact h.setSetting _ _ _ (h.withGrouping on)
  case setRowLimit limit =>
    refine h.setSetting _ _ _ ?_
    exact h.congr rfl rfl rfl rfl rfl rfl rfl h.globalWhere
  case setStreamingRowLimit limit =>
    refine h.setSetting _ _ _ ?_
    exact h.congr rfl rfl rfl rfl rfl rfl rfl h.globalWhere
  case setStreaming on =>
    refine h.setSetting _ _ _ ?_
    exact h.congr rfl rfl rfl rfl rfl rfl rfl h.globalWhere
  case setZoom zoom => exact h.setSetting _ _ _ (h.withZoom zoom)
  case setSource source => exact h.congr rfl rfl rfl rfl rfl rfl rfl h.globalWhere
  case defineOverride text => exact h.defineOverride text
  case clearOverride => exact h.clearOverride
  case reset ids =>
    obtain ⟨q', hreach, hcoh⟩ := h.reset_reaches he
    exact hreach.2 ▸ hcoh

/-- **The queries that a history comes to**: a new query, and what an edit makes of one. -/
inductive Reachable : Query → Prop where
  /-- A new query. -/
  | new (name : String) {supply : IdSupply} (hsupply : supply.Fresh 6) :
    Reachable ((Query.new name).run supply).1
  /-- What an edit makes of a query, whether it is made or refused. -/
  | edit {q : Query} (h : Reachable q) {e : Edit} (he : e.WellFormed) :
    Reachable (e.change q).query

/-- **Every query of a history has the invariant.** -/
theorem Reachable.coherent (h : q.Reachable) : q.Coherent := by
  induction h with
  | new name hsupply => exact coherent_new name hsupply
  | edit _ he ih => exact ih.change he

end Query

/-! ### Sessions -/

/-- No listener fails at any event. -/
def Bus.Quiet (bus : Bus) : Prop := ∀ s ∈ bus.subscriptions, s.listener.failsAt = none

/-- One event told to every subscriber, the most recent one first. -/
def Bus.deliveries (bus : Bus) (event : Event) : List Delivery :=
  bus.subscriptions.reverse.map fun s => ⟨s.handle, s.listener, event⟩

/-- If nobody fails, everybody is called. -/
theorem Bus.called_eq_self {fails : Subscription → Bool} {subscriptions : List Subscription}
    (h : ∀ s ∈ subscriptions, fails s = false) : called fails subscriptions = subscriptions := by
  induction subscriptions with
  | nil => rfl
  | cons s rest ih =>
    rw [called, h s List.mem_cons_self, if_neg Bool.false_ne_true,
      ih fun s hs => h s (List.mem_cons_of_mem _ hs)]

theorem Bus.Quiet.emit_eq {bus : Bus} (h : bus.Quiet) (event : Event) :
    bus.emit event = (bus.deliveries event, true) := by
  -- a listener that never fails stops no call, so the whole list is called
  have hquiet : ∀ s ∈ bus.subscriptions.reverse,
      decide (s.listener.failsAt = some event.kind) = false := by
    intro s hs
    rw [h s (List.mem_reverse.mp hs)]
    exact decide_eq_false (Option.some_ne_none _).symm
  have hall : bus.subscriptions.reverse.all
      (fun s => !decide (s.listener.failsAt = some event.kind)) = true := by
    rw [List.all_eq_true]
    intro s hs
    rw [hquiet s hs, Bool.not_false]
  unfold Bus.emit Bus.calls
  dsimp only
  rw [called_eq_self hquiet, hall]
  rfl

namespace Session

theorem tellAll_of_quiet {bus : Bus} (h : bus.Quiet) (log : List Announcement) :
    tellAll bus log = ((log.map (·.event)).flatMap bus.deliveries, none) := by
  induction log with
  | nil => rfl
  | cons a rest ih =>
    rw [tellAll, h.emit_eq, ih]
    rfl

/-- As long as no listener fails, an edit is made or refused, and all of them are told of everything
that it announces. -/
theorem perform_of_quiet {s : Session} (h : s.bus.Quiet) (e : Edit) :
    s.perform e =
      { ending := match (e.change s.query).result with
          | .ok reply => .made reply
          | .error cause => .refused cause
        session := ⟨(e.change s.query).query, s.bus⟩
        told := ((e.change s.query).log.map (·.event)).flatMap s.bus.deliveries } := by
  rewrite [perform, tellAll_of_quiet h]
  rfl

/-- As long as no listener fails, an edit leads to the query that its change leads to. -/
theorem perform_session (s : Session) (h : s.bus.Quiet) (e : Edit) :
    (s.perform e).session = ⟨(e.change s.query).query, s.bus⟩ := by
  rw [perform_of_quiet h]

/-- The session after a history of edits. -/
def run (s : Session) (edits : List Edit) : Session :=
  edits.foldl (fun s e => (s.perform e).session) s

/-- A session stays at queries that a history comes to. -/
theorem run_reachable {s : Session} (h : s.bus.Quiet) (hs : s.query.Reachable) {edits : List Edit}
    (hedits : ∀ e ∈ edits, e.WellFormed) : (s.run edits).query.Reachable := by
  induction edits generalizing s with
  | nil => exact hs
  | cons e rest ih =>
    rw [run, List.foldl_cons, perform_session s h]
    exact ih h (hs.edit (hedits e List.mem_cons_self)) fun e he =>
      hedits e (List.mem_cons_of_mem _ he)

/-- What edits make of a new query in a session that nobody listens to. -/
theorem run_new_reachable {edits : List Edit} (hedits : ∀ e ∈ edits, e.WellFormed) :
    ((ofQuery ((Query.new "sample").run (IdSupply.after 0)).1).run edits).query.Reachable := by
  refine run_reachable (fun _ hs => absurd hs List.not_mem_nil) ?_ hedits
  exact .new "sample" IdSupply.after_zero_fresh

/-- The query that the sample history comes to. -/
def sampleQuery : Query :=
  ((ofQuery ((Query.new "sample").run (IdSupply.after 0)).1).run Edit.sample).query

theorem sampleQuery_reachable : sampleQuery.Reachable := run_new_reachable Edit.sample_wellFormed

/-- **The facts of a query agree throughout its history.** Whatever edits are made on a new query,
in whatever order and whether they are made or refused:

* no table is twice on the from-list, the map of the tables has an entry for exactly the identities
  on the list, each under its own identity, and the constants container is not among them;
* the index lists exactly the items of the constants container and the tables, each of them with the
  one container that holds it, and each item knows that container;
* the selection lists exactly the selected items, each once;
* the sort list lists exactly the selected items that have a direction, each once;
* the registration order names exactly the joins of the map, each once; every join leads between two
  tables that hold its items, it is listed under exactly these two, in registration order, and the
  joins at one table agree on its outer flag;
* the consistency check of the library accepts the query. -/
theorem run_facts_agree (name : String) {supply : IdSupply} (hsupply : supply.Fresh 6) {bus : Bus}
    (hbus : bus.Quiet) {edits : List Edit} (hedits : ∀ e ∈ edits, e.WellFormed) {q : Query}
    (hq : (run ⟨((Query.new name).run supply).1, bus⟩ edits).query = q) :
    (q.tableIds.Nodup ∧ (∀ c, c ∈ q.tableIds ↔ (q.table? c).isSome = true) ∧
      (∀ c k, q.table? c = some k ↔ k ∈ q.tables ∧ k.id = c) ∧ q.constants.id ∉ q.tableIds) ∧
    ((∀ x c, q.itemIndex.get? x = some c ↔
        ∃ k ∈ q.containers, k.id = c ∧ x ∈ k.items.map (·.id)) ∧
      (q.items.map (·.id)).Nodup ∧ ∀ k ∈ q.containers, ∀ x ∈ k.items, x.parent = some k.id) ∧
    (q.selection.Nodup ∧
      ∀ id, id ∈ q.selection ↔ ∃ x ∈ q.items, x.id = id ∧ x.selected = true) ∧
    (q.sortList.Nodup ∧
      ∀ id, id ∈ q.sortList ↔
        ∃ x ∈ q.items, x.id = id ∧ x.selected = true ∧ x.sortOrder.isOrdered = true) ∧
    (q.joins.ids.Nodup ∧ (∀ id, id ∈ q.joins.ids ↔ q.joins.contains id = true) ∧
      (∀ j ∈ q.joins.joins, j.left.container ≠ j.right.container ∧
        ∀ side, ∃ k ∈ q.tables, k.id = (j.atSide side).container ∧
          (j.atSide side).item ∈ k.items.map (·.id)) ∧
      (∀ c, q.joins.idsAt c = (q.joins.inOrder.filter (·.touches c)).map (·.id)) ∧
      ∀ j ∈ q.joins.joins, ∀ k ∈ q.joins.joins, ∀ s t,
        (j.atSide s).container = (k.atSide t).container →
          (j.atSide s).outer = (k.atSide t).outer) ∧
    q.isConsistent = true := by
  -- the invariant holds after every run; the parts of the statement are read off it
  have h : q.Coherent := by
    rw [← hq]
    exact (run_reachable hbus (.new name hsupply) hedits).coherent
  have hsorted : ∀ x : Item, x.isSorted = true ↔
      x.selected = true ∧ x.sortOrder.isOrdered = true := fun x => Bool.and_eq_true_iff
  rw [h.joins.inOrder_eq]
  refine ⟨⟨h.tableIds_nodup, fun c => ?_, fun _ _ => h.housed.table?_iff, h.constants_notMem⟩,
    ⟨h.housed.get?_iff, h.itemIds_nodup, h.housed.parent⟩, ⟨h.selection.nodup, h.selection.mem_iff⟩,
    ⟨h.sortList.nodup, fun id => ?_⟩,
    ⟨h.joins.nodup, fun _ => h.joins.contains_iff.symm,
      fun j hj => ⟨h.joins.apart j hj, fun side => ?_⟩, h.joins.idsAt_eq, h.joins.agree⟩,
    h.isConsistent⟩
  · rw [h.mem_tableIds, Option.isSome_iff_exists]
    simp only [h.housed.table?_iff]
  · rw [h.sortList.mem_iff]
    simp only [hsorted]
  · exact (Query.Coherent.holdsEnd_iff h.housed).mp (h.ends j hj side)

/-- The sample history is one of those, under a listener that never fails. -/
theorem run_facts_agree_sample :
    (IdSupply.after 0).Fresh 6 ∧ Bus.Quiet ⟨[⟨0, ⟨"log", none⟩⟩], 1⟩ ∧
      (∀ e ∈ Edit.sample, e.WellFormed) ∧
      (run ⟨((Query.new "sample").run (IdSupply.after 0)).1, ⟨[⟨0, ⟨"log", none⟩⟩], 1⟩⟩
        Edit.sample).query.isConsistent = true := by
  have hbus : Bus.Quiet ⟨[⟨0, ⟨"log", none⟩⟩], 1⟩ := by
    intro s hs
    rw [List.mem_singleton.mp hs]
  refine ⟨IdSupply.after_zero_fresh, hbus, Edit.sample_wellFormed, ?_⟩
  exact (run_facts_agree "sample" IdSupply.after_zero_fresh hbus Edit.sample_wellFormed
    rfl).2.2.2.2.2

end Session

end VisualQuery
