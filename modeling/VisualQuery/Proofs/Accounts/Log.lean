import VisualQuery.Proofs.Accounts.Reset
import VisualQuery.Proofs.EventLog

/-!
# The log accounts for the query

Every edit of a query with the invariant is accounted for by the events that it announces
(`Query.Coherent.recounts_change`), so a whole history is. A listener that keeps the log of a query
from the start can say at any time which tables and joins there are, in order, and what the value of
each property of anybody is: the last one that was announced since they were added, or the one they
were added with (`Session.log_accounts`).

In the log an event stands together with the edit that announced it and the query that the edit
started from (`Query.Step`). What somebody is added with is read off these, and nothing else is.
-/

namespace VisualQuery

namespace Query

open Change

variable {q : Query} {e : Edit}

/-! ### Edits -/

/-- Every edit but a reset announces what it does, and every announcement finds a query with the
invariant. -/
theorem Coherent.accounted_change (h : q.Coherent) (he : e.WellFormed)
    (hreset : ∀ ids, e ≠ .reset ids) : Accounted e q q (e.change q) := by
  cases e <;> rw [Edit.change] <;> try refine Accounted.map ?_ _
  case startCompoundEdit message =>
    rw [startCompoundEdit_apply]
    exact ⟨recounts_opening message q, h.sound_opening message, h.opened message⟩
  case endCompoundEdit =>
    rw [endCompoundEdit_apply]
    split
    · exact .of_refused h _
    · rw [finishCompoundEdit_apply]
      exact ⟨recounts_closing q, h.sound_closing, h.closed⟩
  case addTable table => exact h.accounted_addTable table he
  case removeTable id => exact h.accounted_removeTable id
  case setContainerAlias | setContainerPosition =>
    refine h.accounted_setContainerProperty _ (fun _ => ⟨rfl, rfl, rfl⟩) (fun _ => rfl)
      (fun _ => rfl) fun _ p hp => ?_
    -- every other property reads another field
    cases p <;> first | rfl | exact absurd rfl hp
  case addItem container item => exact h.accounted_addItem container rfl
  case insertItem container index item => exact h.accounted_insertItem container index rfl
  case addConstant id text =>
    rw [addConstant_apply]
    split
    · exact .of_refused h _
    · exact h.accounted_addItem _ rfl
  case removeItem id => exact h.accounted_removeItem id
  case setItemSelected id selected => exact h.accounted_setItemSelected id selected
  case setSortOrder id order => exact h.accounted_setSortOrder id order
  case moveSelectedItem id index => exact h.accounted_moveSelectedItem id index
  case renameItem id name => exact h.accounted_renameItem id name
  case setItemAlias | setItemFilter | setItemHaving | setGroupFunction | setColumnWidth =>
    refine h.accounted_setItemProperty _ _ (fun _ => ⟨rfl, rfl, rfl, rfl⟩) (fun _ => rfl)
      (fun _ => rfl) fun x p hp => ?_
    cases p <;> first | rfl | exact absurd rfl hp
  case addJoin join => exact h.accounted_addJoin rfl
  case joinItems id left right => exact h.accounted_joinItems id left right
  case removeJoin id => exact h.accounted_removeJoin id
  case setJoinOuter id side outer => exact h.accounted_setJoinOuter id side outer
  case setJoinComparator | setJoinName =>
    refine h.accounted_setJoinProperty _ _ (fun _ => ⟨rfl, rfl, rfl⟩) (fun _ => rfl)
      (fun _ => rfl) fun j p hp => ?_
    cases p <;> first | rfl | exact absurd rfl hp
  case setGlobalWhere text => exact h.accounted_setGlobalWhere text
  case setGrouping on => exact h.accounted_setGrouping on
  case setZoom zoom => exact h.accounted_setZoom zoom
  case setName | setRowLimit | setStreamingRowLimit | setStreaming =>
    refine h.accounted_setSetting _ ?_ (fun _ => rfl) rfl rfl fun p hp => ?_
    · exact h.congr rfl rfl rfl rfl rfl rfl rfl h.globalWhere
    · cases p <;> first | rfl | exact absurd rfl hp
  case setSource source => exact .of_silent rfl (h.congr rfl rfl rfl rfl rfl rfl rfl h.globalWhere)
  case defineOverride text => exact h.accounted_defineOverride text
  case clearOverride => exact h.accounted_setOverride none
  case reset ids => exact absurd rfl (hreset ids)

/-- **The step of a history.** The events of an edit account for what it does. -/
theorem Coherent.recounts_change (h : q.Coherent) (he : e.WellFormed) :
    Recounts e q q ((e.change q).log.map (·.event)) (e.change q).query := by
  by_cases hreset : ∃ ids, e = .reset ids
  · obtain ⟨ids, rfl⟩ := hreset
    rw [Edit.change, map_apply]
    exact h.recounts_reset he
  · exact (h.accounted_change he fun ids heq => hreset ⟨ids, heq⟩).recounts

/-! ### Histories -/

/-- An event of a history. -/
structure Step where
  /-- The edit that announced it. -/
  edit : Edit
  /-- The query that the edit started from. -/
  start : Query
  /-- The event. -/
  event : Event

/-- Whether the event adds somebody. -/
def Step.adds (s : Step) (t : Target) : Prop := s.edit.adds s.event t

/-- The value that somebody is added with. -/
def Step.given (s : Step) (t : Target) (p : Property) : Option PropertyValue :=
  s.edit.given s.start t p

/-- The events of a history, each with where it comes from. -/
def steps (q : Query) : List Edit → List Step
  | [] => []
  | e :: rest => ((e.change q).log.map (·.event)).map (Step.mk e q) ++ (e.change q).query.steps rest

theorem map_event_steps (q : Query) (edits : List Edit) :
    (q.steps edits).map (·.event) = q.events edits := by
  induction edits generalizing q with
  | nil => rfl
  | cons e rest ih =>
    rw [steps, List.map_append, ih, events_cons, List.map_map]
    exact congrArg (· ++ _) (List.map_id' _)

theorem Coherent.tableIds_after (h : q.Coherent) {edits : List Edit}
    (hedits : ∀ e ∈ edits, e.WellFormed) :
    (q.after edits).tableIds = (q.events edits).foldl Event.onTables q.tableIds := by
  induction edits generalizing q with
  | nil => rfl
  | cons e rest ih =>
    obtain ⟨he, hrest⟩ := List.forall_mem_cons.mp hedits
    rw [after_cons, ih (h.change he) hrest, events_cons, List.foldl_append,
      (h.recounts_change he).tables]

theorem Coherent.joinIds_after (h : q.Coherent) {edits : List Edit}
    (hedits : ∀ e ∈ edits, e.WellFormed) :
    (q.after edits).joins.ids = (q.events edits).foldl Event.onJoins q.joins.ids := by
  induction edits generalizing q with
  | nil => rfl
  | cons e rest ih =>
    obtain ⟨he, hrest⟩ := List.forall_mem_cons.mp hedits
    rw [after_cons, ih (h.change he) hrest, events_cons, List.foldl_append,
      (h.recounts_change he).joins]

/-- **A value can be traced back over a history**, to the start or to where somebody was added for
the last time. -/
theorem Coherent.traced (h : q.Coherent) {edits : List Edit} (hedits : ∀ e ∈ edits, e.WellFormed)
    {t : Target} {p : Property} {v : PropertyValue} (hv : (q.after edits).value? t p = some v) :
    ((∀ s ∈ q.steps edits, ¬ s.adds t) ∧
      ∃ old, q.value? t p = some old ∧ Chained old (changesOf t p (q.events edits)) v) ∨
    ∃ earlier s later, q.steps edits = earlier ++ s :: later ∧ s.adds t ∧
      (∀ s ∈ later, ¬ s.adds t) ∧
      ∃ old, s.given t p = some old ∧ Chained old (changesOf t p (later.map (·.event))) v := by
  induction edits generalizing q with
  | nil => exact .inl ⟨fun _ hs => absurd hs List.not_mem_nil, v, hv, rfl⟩
  | cons e rest ih =>
    obtain ⟨he, hrest⟩ := List.forall_mem_cons.mp hedits
    rw [steps]
    rcases ih (h.change he) hrest hv with
      ⟨hnever, between, hbetween, hchained⟩ | ⟨earlier, s, later, hsteps, hlast⟩
    · -- nobody is added later, so the value behind the first edit is traced back over this edit
      rcases (h.recounts_change he).since hbetween with
        ⟨hnever', old, hold, hchained'⟩ | ⟨earlier, event, later, hevents, hadds, hlater, old, hold,
          hchained'⟩
      · -- nobody is added by this edit either
        refine .inl ⟨fun s hs => ?_, old, hold, ?_⟩
        · rcases List.mem_append.mp hs with hs | hs
          · obtain ⟨event, hevent, rfl⟩ := List.mem_map.mp hs
            exact hnever' event hevent
          · exact hnever s hs
        · rw [events_cons, changesOf_append]
          exact hchained'.append hchained
      · -- this edit added them, and what follows belongs to the chain
        refine .inr ⟨earlier.map (Step.mk e q), ⟨e, q, event⟩,
          later.map (Step.mk e q) ++ (e.change q).query.steps rest, ?_, hadds, fun s hs => ?_, old,
          hold, ?_⟩
        · rw [hevents, List.map_append, List.map_cons, List.append_assoc, List.cons_append]
        · rcases List.mem_append.mp hs with hs | hs
          · obtain ⟨event, hevent, rfl⟩ := List.mem_map.mp hs
            exact hlater event hevent
          · exact hnever s hs
        · have hevents' : (later.map (Step.mk e q)).map (·.event) = later :=
            List.map_map.trans (List.map_id' later)
          rw [List.map_append, hevents', map_event_steps, changesOf_append]
          exact hchained'.append hchained
    · let first := ((e.change q).log.map (·.event)).map (Step.mk e q)
      refine .inr ⟨first ++ earlier, s, later, ?_, hlast⟩
      rw [hsteps, ← List.append_assoc]

end Query

namespace Session

open Query

/-- **The log accounts for the query.** Whatever edits are made on a new query, as long as no
listener fails:

* all listeners hear the same log;
* the tables that it says were added, without those that it says were removed, are the tables of the
  query in the order of the from-list;
* in the same way it gives the joins in the order they were registered;
* whatever property the query or somebody in it has, its value can be read off the log. The changes
  of the property that were announced since they were added for the last time, or since the start if
  they were there from the start, lead from the value that they were added with to the one that they
  have. Each of them goes on where the one before it led to; if there are none, the value is the one
  that they were added with. -/
theorem log_accounts (name : String) {supply : IdSupply} (hsupply : supply.Fresh 6) {bus : Bus}
    (hbus : bus.Quiet) {edits : List Edit} (hedits : ∀ e ∈ edits, e.WellFormed) {q q' : Query}
    (hq : ((Query.new name).run supply).1 = q) (hq' : (run ⟨q, bus⟩ edits).query = q')
    {log : List Step} (hlog : q.steps edits = log) :
    told ⟨q, bus⟩ edits = (log.map (·.event)).flatMap bus.deliveries ∧
    (log.map (·.event)).foldl Event.onTables [] = q'.tableIds ∧
    (log.map (·.event)).foldl Event.onJoins [] = q'.joins.ids ∧
    ∀ t p v, q'.Holds p v t →
      ((∀ s ∈ log, ¬ s.adds t) ∧
        ∃ old, q.Holds p old t ∧ Chained old (changesOf t p (log.map (·.event))) v) ∨
      ∃ earlier s later, log = earlier ++ s :: later ∧ s.adds t ∧ (∀ s ∈ later, ¬ s.adds t) ∧
        ∃ old, s.given t p = some old ∧ Chained old (changesOf t p (later.map (·.event))) v := by
  have h : q.Coherent := by
    rw [← hq]
    exact coherent_new name hsupply
  have hafter : q.after edits = q' := by
    rw [← hq', run_of_quiet hbus]
  have hevents : log.map (·.event) = q.events edits := by
    rw [← hlog, map_event_steps]
  -- a new query has no tables and no joins, so both folds start from nothing
  have hnothing : q.tableIds = [] ∧ q.joins.ids = [] := by
    rw [← hq]
    exact ⟨rfl, rfl⟩
  rw [hevents]
  refine ⟨told_of_quiet hbus edits, ?_, ?_, fun t p v hv => ?_⟩
  · rw [← hnothing.1, ← h.tableIds_after hedits, hafter]
  · rw [← hnothing.2, ← h.joinIds_after hedits, hafter]
  · -- the values of a query with the invariant are what its targets hold
    have h' : q'.Coherent := hafter ▸ h.after hedits
    rw [← h'.value?_iff, ← hafter] at hv
    rw [← hlog]
    rcases h.traced hedits hv with ⟨hnever, old, hold, hchained⟩ | hlast
    · exact .inl ⟨hnever, old, h.value?_iff.mp hold, hchained⟩
    · exact .inr hlast

/-- In the sample history three tables are added and one join. -/
theorem log_accounts_sample :
    (IdSupply.after 0).Fresh 6 ∧ Bus.log.Quiet ∧ (∀ e ∈ Edit.sample, e.WellFormed) ∧
      ∃ log, ((Query.new "sample").run (IdSupply.after 0)).1.steps Edit.sample = log ∧
        (log.map (·.event)).foldl Event.onTables [] = [⟨.ofNat 10⟩, ⟨.ofNat 20⟩, ⟨.ofNat 40⟩] ∧
        (log.map (·.event)).foldl Event.onJoins [] = [⟨.ofNat 30⟩] := by
  have h := log_accounts "sample" IdSupply.after_zero_fresh Bus.log_quiet Edit.sample_wellFormed rfl
    rfl rfl
  exact ⟨IdSupply.after_zero_fresh, Bus.log_quiet, Edit.sample_wellFormed, _, rfl,
    h.2.1.trans rfl, h.2.2.1.trans rfl⟩

end Session

end VisualQuery
