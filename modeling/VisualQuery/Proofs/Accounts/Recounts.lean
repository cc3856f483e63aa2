import VisualQuery.Proofs.Accounts.Values
import VisualQuery.Proofs.CompoundEdits.Moves

/-!
# Events that account for a change

An event accounts for the way from one query to another if it explains every value that somebody has
behind it (`Query.Tells`): the event adds them with that value, or it announces the change to that
value from the one before, or nothing that it says is about them and the value is the old one. In
addition it says what becomes of the list of tables and of the list of joins.

A sequence of events accounts for the way between two queries if each does for a part of it
(`Query.Recounts`). The queries in between need not be seen by anybody: where joins are removed all
at once and announced one after the other, they are the queries that would have come up if they had
been removed one by one.

What is proved about sequences from this (`Query.Recounts.since`) does not look at edits any more,
and what is proved about edits is one event at a time. `Query.Accounted` puts it together with the
other thing that every announcement satisfies, the invariant of the query at that moment.
-/

namespace VisualQuery

open Change

namespace Query

/-! ### One event -/

/-- Why somebody has a value of a property behind an event of an edit that started at `start`. -/
inductive Explained (e : Edit) (start q : Query) (event : Event) (t : Target) (p : Property)
    (v : PropertyValue) : Prop where
  /-- They were added with it. -/
  | added (hadds : e.adds event t) (hgiven : e.given start t p = some v)
  /-- It was changed to that from the value that they had. -/
  | changed (hadds : ¬ e.adds event t) {old : PropertyValue}
      (hchange : event.change? = some ⟨t, p, old, v⟩) (hold : q.value? t p = some old)
  /-- They had it before, and the event is about something else. -/
  | kept (hadds : ¬ e.adds event t)
      (hchange : ∀ c, event.change? = some c → ¬ (c.target = t ∧ c.property = p))
      (hvalue : q.value? t p = some v)

/-- **The event accounts for the way from one query to another.** -/
structure Tells (e : Edit) (start q : Query) (event : Event) (q' : Query) : Prop where
  /-- It says what becomes of the tables. -/
  tables : q'.tableIds = event.onTables q.tableIds
  /-- It says what becomes of the joins. -/
  joins : q'.joins.ids = event.onJoins q.joins.ids
  /-- It explains every value. -/
  values : ∀ t p v, q'.value? t p = some v → Explained e start q event t p v

/-- What events account for. -/
def account (q : Query) :
    List ContainerId × List JoinId × (Target → Property → Option PropertyValue) :=
  (q.tableIds, q.joins.ids, q.value?)

theorem account_eq_iff {q q' : Query} : q'.account = q.account ↔
    q'.tableIds = q.tableIds ∧ q'.joins.ids = q.joins.ids ∧ q'.value? = q.value? := by
  rw [account, account, Prod.mk.injEq, Prod.mk.injEq]

variable {e : Edit} {start q q₁ q' : Query} {event : Event} {events later : List Event}

namespace Tells

theorem congr (h : Tells e start q event q') (hq : q₁.account = q.account) :
    Tells e start q₁ event q' := by
  obtain ⟨htables, hjoins, hvalue⟩ := account_eq_iff.mp hq
  refine ⟨htables ▸ h.tables, hjoins ▸ h.joins, fun t p v hv => ?_⟩
  cases h.values t p v hv with
  | added hadds hgiven => exact .added hadds hgiven
  | changed hadds hchange hold => exact .changed hadds hchange (hvalue ▸ hold)
  | kept hadds hchange hkept => exact .kept hadds hchange (hvalue ▸ hkept)

/-- One property of somebody changes. -/
theorem of_change {c : PropertyChange Target} (hchange : event.change? = some c)
    (htables : q'.tableIds = q.tableIds) (hjoins : q'.joins.ids = q.joins.ids)
    (hold : q.value? c.target c.property = some c.old)
    (hnew : ∀ v, q'.value? c.target c.property = some v → v = c.new)
    (hother : ∀ t p v, ¬ (t = c.target ∧ p = c.property) → q'.value? t p = some v →
      q.value? t p = some v) : Tells e start q event q' := by
  have hfree : event.isAddition = false ∧ (∀ ids, event.onTables ids = ids) ∧
      ∀ ids, event.onJoins ids = ids := by
    cases event
    case itemChanged | joinChanged | containerChanged | queryChanged =>
      exact ⟨rfl, fun _ => rfl, fun _ => rfl⟩
    all_goals exact absurd hchange (by simp [Event.change?])
  obtain ⟨hevent, honTables, honJoins⟩ := hfree
  have hadds : ∀ t, ¬ e.adds event t := Edit.not_adds hevent
  refine ⟨htables.trans (honTables _).symm, hjoins.trans (honJoins _).symm, fun t p v hv => ?_⟩
  by_cases hc : t = c.target ∧ p = c.property
  · -- the property that changes
    obtain ⟨rfl, rfl⟩ := hc
    rw [hnew v hv]
    exact .changed (hadds _) hchange hold
  · refine .kept (hadds t) (fun c' hc' => ?_) (hother t p v hc hv)
    obtain rfl : c = c' := Option.some.inj (hchange.symm.trans hc')
    exact fun hboth => hc ⟨hboth.1.symm, hboth.2.symm⟩

/-- Nobody comes and nothing changes, but somebody may go. -/
theorem of_loss (hevent : event.isAddition = false) (hchange : event.change? = none)
    (htables : q'.tableIds = event.onTables q.tableIds)
    (hjoins : q'.joins.ids = event.onJoins q.joins.ids)
    (hvalues : ∀ t p v, q'.value? t p = some v → q.value? t p = some v) :
    Tells e start q event q' := by
  refine ⟨htables, hjoins, fun t p v hv => ?_⟩
  refine .kept (Edit.not_adds hevent t) (fun c hc => ?_) (hvalues t p v hv)
  rw [hchange] at hc
  exact absurd hc (by simp)

/-- Somebody is added. -/
theorem of_addition (hchange : event.change? = none)
    (htables : q'.tableIds = event.onTables q.tableIds)
    (hjoins : q'.joins.ids = event.onJoins q.joins.ids)
    (hvalues : ∀ t p v, q'.value? t p = some v →
      e.adds event t ∧ e.given start t p = some v ∨ ¬ e.adds event t ∧ q.value? t p = some v) :
    Tells e start q event q' := by
  refine ⟨htables, hjoins, fun t p v hv => ?_⟩
  -- what the target is given starts its chain of changes, everything else is kept
  rcases hvalues t p v hv with ⟨hadds, hgiven⟩ | ⟨hadds, hkept⟩
  · exact .added hadds hgiven
  · refine .kept hadds (fun c hc => ?_) hkept
    rw [hchange] at hc
    exact absurd hc (by simp)

/-- Markers and moves in the selection are about nothing that has a value. -/
theorem of_same (hevent : event.isMarker = true ∨ event.kind = .itemOrderChanged)
    (hsame : q'.account = q.account) : Tells e start q event q' := by
  obtain ⟨htables, hjoins, hvalue⟩ := account_eq_iff.mp hsame
  -- these events speak of no table, no join and no property
  have hfree : event.isAddition = false ∧ event.change? = none ∧
      (∀ ids, event.onTables ids = ids) ∧ ∀ ids, event.onJoins ids = ids := by
    cases event
    case compoundStarted | compoundEnded | canExecute | itemOrderChanged =>
      exact ⟨rfl, rfl, fun _ => rfl, fun _ => rfl⟩
    all_goals exact absurd hevent (by simp [Event.isMarker, Event.kind])
  obtain ⟨hnone, hchange, honTables, honJoins⟩ := hfree
  refine of_loss hnone hchange ?_ ?_ fun t p v hv => hvalue ▸ hv
  · rw [honTables, htables]
  · rw [honJoins, hjoins]

end Tells

/-! ### Sequences of events -/

/-- **The events account for the way from one query to another**, each for a part of it. -/
inductive Recounts (e : Edit) (start : Query) : Query → List Event → Query → Prop where
  /-- Without an event everything is the same. -/
  | nil {q q' : Query} (h : q'.account = q.account) : Recounts e start q [] q'
  /-- An event, and then the others. -/
  | cons {q q₁ q' : Query} {event : Event} {events : List Event} (h : Tells e start q event q₁)
      (hrest : Recounts e start q₁ events q') : Recounts e start q (event :: events) q'

theorem changesOf_cons_self {t : Target} {p : Property} {old new : PropertyValue}
    (h : event.change? = some ⟨t, p, old, new⟩) (events : List Event) :
    changesOf t p (event :: events) = ⟨t, p, old, new⟩ :: changesOf t p events := by
  rw [changesOf, List.filterMap_cons_some h]
  exact List.filter_cons_of_pos (decide_eq_true ⟨rfl, rfl⟩)

theorem changesOf_cons_of_ne {t : Target} {p : Property}
    (h : ∀ c, event.change? = some c → ¬ (c.target = t ∧ c.property = p)) (events : List Event) :
    changesOf t p (event :: events) = changesOf t p events := by
  cases hchange : event.change? with
  | none => rw [changesOf, List.filterMap_cons_none hchange, changesOf]
  | some c =>
    rw [changesOf, List.filterMap_cons_some hchange]
    exact List.filter_cons_of_neg fun hc => h c hchange (of_decide_eq_true hc)

namespace Recounts

theorem congr (h : Recounts e start q events q') (hq : q₁.account = q.account) :
    Recounts e start q₁ events q' := by
  cases h with
  | nil h => exact .nil (h.trans hq.symm)
  | cons h hrest => exact .cons (h.congr hq) hrest

theorem append (h : Recounts e start q events q₁) (hlater : Recounts e start q₁ later q') :
    Recounts e start q (events ++ later) q' := by
  induction h with
  | nil h => exact hlater.congr h.symm
  | cons h _ ih => exact .cons h (ih hlater)

theorem congr_last (h : Recounts e start q events q₁) (hq : q'.account = q₁.account) :
    Recounts e start q events q' := by
  have hlater := h.append (.nil hq)
  rwa [List.append_nil] at hlater

theorem single (h : Tells e start q event q₁) (hsame : q'.account = q₁.account) :
    Recounts e start q [event] q' := .cons h (.nil hsame)

theorem tables (h : Recounts e start q events q') :
    q'.tableIds = events.foldl Event.onTables q.tableIds := by
  induction h with
  | nil h => exact (account_eq_iff.mp h).1
  | cons h _ ih => rw [ih, h.tables, List.foldl_cons]

theorem joins (h : Recounts e start q events q') :
    q'.joins.ids = events.foldl Event.onJoins q.joins.ids := by
  induction h with
  | nil h => exact (account_eq_iff.mp h).2.1
  | cons h _ ih => rw [ih, h.joins, List.foldl_cons]

/-- **A value can be traced back.** Either nobody was added as this one, and the changes lead from
the value at the start to the one at the end; or the changes since they were added for the last time
lead there from the value that they were added with. -/
theorem since (h : Recounts e start q events q') {t : Target} {p : Property} {v : PropertyValue}
    (hv : q'.value? t p = some v) :
    ((∀ event ∈ events, ¬ e.adds event t) ∧
      ∃ old, q.value? t p = some old ∧ Chained old (changesOf t p events) v) ∨
    ∃ earlier event later, events = earlier ++ event :: later ∧ e.adds event t ∧
      (∀ event ∈ later, ¬ e.adds event t) ∧
      ∃ old, e.given start t p = some old ∧ Chained old (changesOf t p later) v := by
  induction h with
  | nil h =>
    refine .inl ⟨fun _ hevent => absurd hevent List.not_mem_nil, v, ?_, rfl⟩
    rw [← (account_eq_iff.mp h).2.2]
    exact hv
  | @cons q q₁ q' event events h _ ih =>
    rcases ih hv with ⟨hnever, old, hold, hchained⟩ | ⟨earlier, event', later, rfl, hrest⟩
    · -- the value behind the first event is traced back over it
      have hnever' : ¬ e.adds event t → ∀ event' ∈ event :: events, ¬ e.adds event' t := by
        intro hadds event' hevent'
        rcases List.mem_cons.mp hevent' with rfl | hevent'
        · exact hadds
        · exact hnever event' hevent'
      cases h.values t p old hold with
      | added hadds hgiven =>
        -- the trace starts here
        exact .inr ⟨[], event, events, rfl, hadds, hnever, old, hgiven, hchained⟩
      | @changed hadds before hchange hbefore =>
        -- this change comes first on the chain
        refine .inl ⟨hnever' hadds, before, hbefore, ?_⟩
        rw [changesOf_cons_self hchange]
        exact ⟨rfl, hchained⟩
      | kept hadds hchange hkept =>
        refine .inl ⟨hnever' hadds, old, hkept, ?_⟩
        rw [changesOf_cons_of_ne hchange]
        exact hchained
    · -- they were added later, so the first event does not matter
      exact .inr ⟨event :: earlier, event', later, rfl, hrest⟩

end Recounts

/-! ### Outcomes -/

theorem noted_noted (q : Query) : q.noted.noted = q.noted := noted_notedIf true q

theorem announceAll_log (hmarker : ∀ event ∈ events, event.isMarker = false) (q : Query) :
    (announceAll events q).log = events.map fun event => ⟨event, q.noted⟩ := by
  induction events generalizing q with
  | nil => rfl
  | cons event events ih =>
    obtain ⟨hevent, hevents⟩ := List.forall_mem_cons.mp hmarker
    have hfirst := bind_of_ok (f := fun _ => announceAll events) (announce_apply hevent q)
    rw [announceAll, hfirst, ih hevents, noted_noted]
    rfl

theorem bind_of_reaches {α β : Type} {m : Change α} {f : α → Change β} {a : α}
    (h : Reaches m q a q₁) :
    (m >>= f) q = ⟨(f a q₁).result, (f a q₁).query, (m q).log ++ (f a q₁).log⟩ := by
  obtain ⟨hresult, rfl⟩ := h
  cases ho : m q with
  | mk result q₁ log =>
    rw [ho] at hresult
    cases hresult
    exact bind_of_ok ho

/-- What the change announces accounts for what it does, and at each announcement, as in the end,
the query has the invariant. -/
structure Accounted {α : Type} (e : Edit) (start q : Query) (o : Outcome α) : Prop where
  /-- The events account for the way to the query that is reached. -/
  recounts : Recounts e start q (o.log.map (·.event)) o.query
  /-- A listener that fails leaves a query with the invariant behind. -/
  sound : ∀ a ∈ o.log, a.query.Coherent
  /-- So does the change. -/
  reached : o.query.Coherent

namespace Accounted

variable {α β : Type} {m : Change α} {f : α → Change β} {a : α}

theorem of_silent (hsame : q'.account = q.account) (hcoh : q'.Coherent) :
    Accounted e start q (.silent a q') :=
  ⟨.nil hsame, fun _ ha => absurd ha List.not_mem_nil, hcoh⟩

theorem of_refused (h : q.Coherent) (cause : QueryError) :
    Accounted e start q (.refused cause q : Outcome α) :=
  ⟨.nil rfl, fun _ ha => absurd ha List.not_mem_nil, h⟩

theorem of_announced (h : Tells e start q event q') (hcoh : q'.Coherent) :
    Accounted e start q (.announced a q' event) := by
  refine ⟨.single h rfl, fun b hb => ?_, hcoh.noted⟩
  rw [List.mem_singleton.mp hb]
  exact hcoh.noted

theorem map (h : Accounted e start q (m q)) (g : α → β) : Accounted e start q ((g <$> m) q) := by
  rw [map_apply]
  exact ⟨h.recounts, h.sound, h.reached⟩

theorem attempt (h : Accounted e start q (m q)) : Accounted e start q (attempt m q) :=
  ⟨h.recounts, h.sound, h.reached⟩

/-- One change after another. The first one may start from a query that was changed silently, and it
may be refused. -/
theorem bind (hm : Accounted e start q (m q'))
    (hf : ∀ a q₁, Reaches m q' a q₁ → q₁.Coherent → Accounted e start q₁ (f a q₁)) :
    Accounted e start q ((m >>= f) q') := by
  cases ho : m q' with
  | mk result q₁ log =>
    rw [ho] at hm
    cases result with
    -- what comes behind is not run
    | error cause =>
      rw [bind_of_error ho]
      exact ⟨hm.recounts, hm.sound, hm.reached⟩
    | ok a =>
      have hrest := hf a q₁ ⟨by rw [ho], by rw [ho]⟩ hm.reached
      -- the two logs are put together, and each part is sound from where it starts
      rw [bind_of_ok ho]
      refine ⟨?_, fun b hb => ?_, hrest.reached⟩
      · rw [List.map_append]
        exact hm.recounts.append hrest.recounts
      · rcases List.mem_append.mp hb with hb | hb
        · exact hm.sound b hb
        · exact hrest.sound b hb

theorem bind_reaches (hm : Accounted e start q (m q')) (hreach : Reaches m q' a q₁)
    (hf : q₁.Coherent → Accounted e start q₁ (f a q₁)) : Accounted e start q ((m >>= f) q') := by
  refine hm.bind fun a' q₂ hreach' hcoh => ?_
  obtain ⟨hresult, rfl⟩ := hreach
  obtain ⟨hresult', rfl⟩ := hreach'
  obtain rfl : a = a' := Except.ok.inj (hresult.symm.trans hresult')
  exact hf hcoh

theorem announceAll (h : Recounts e start q events q') (hcoh : q'.Coherent)
    (hmarker : ∀ event ∈ events, event.isMarker = false) :
    Accounted e start q (announceAll events q') := by
  refine ⟨?_, fun a ha => ?_, ?_⟩
  · -- no marker is among them, so the log is the events as they are
    have hevents : (Change.announceAll events q').log.map (·.event) = events := by
      rw [announceAll_log hmarker, List.map_map]
      exact List.map_id' events
    rw [hevents, (Reaches.announceAll hmarker q').2]
    exact h.congr_last rfl
  · -- each of them is told of the query as it is at the end
    rw [announceAll_log hmarker] at ha
    obtain ⟨event, -, rfl⟩ := List.mem_map.mp ha
    exact hcoh.noted
  · rw [(Reaches.announceAll hmarker q').2]
    exact hcoh.notedIf _

end Accounted

/-! ### Compound edits -/

theorem account_opened (message : String) (q : Query) :
    (q.opened message).account = q.account := by
  rw [opened]
  split <;> rfl

theorem account_closed (q : Query) : q.closed.account = q.account := by
  rw [closed]
  split <;> rfl

theorem recounts_opening (message : String) (q : Query) :
    Recounts e start q ((q.opening message).map (·.event)) (q.opened message) := by
  rw [opening]
  split
  · exact .single (.of_same (.inl rfl) (account_opened message q)) rfl
  · exact .nil (account_opened message q)

theorem recounts_closing (q : Query) :
    Recounts e start q (q.closing.map (·.event)) q.closed := by
  rw [closing]
  split
  · have hended : Tells e start q (.compoundEnded q.compoundMessage) q.ending :=
      .of_same (.inl rfl) rfl
    refine .cons hended ?_
    split
    · exact .single (.of_same (.inl rfl) (account_closed q)) rfl
    · exact .nil (account_closed q)
  · exact .nil (account_closed q)

theorem Coherent.sound_opening (h : q.Coherent) (message : String) :
    ∀ a ∈ q.opening message, a.query.Coherent := by
  intro a ha
  rw [opening] at ha
  split at ha
  · rw [List.mem_singleton.mp ha]
    exact h.opened message
  · exact absurd ha List.not_mem_nil

theorem Coherent.sound_closing (h : q.Coherent) : ∀ a ∈ q.closing, a.query.Coherent := by
  intro a ha
  rw [closing] at ha
  split at ha
  · rcases List.mem_cons.mp ha with rfl | ha
    · exact h.congr rfl rfl rfl rfl rfl rfl rfl h.globalWhere
    · split at ha
      · rw [List.mem_singleton.mp ha]
        exact h.closed
      · exact absurd ha List.not_mem_nil
  · exact absurd ha List.not_mem_nil

/-- The markers of a compound edit are about nothing that has a value. -/
theorem recounts_asCompoundEdit {α : Type} {m : Change α} {message : String}
    (hm : Recounts e start (q.opened message) ((m (q.opened message)).log.map (·.event))
      (m (q.opened message)).query) :
    Recounts e start q ((asCompoundEdit message m q).log.map (·.event))
      (asCompoundEdit message m q).query := by
  rw [asCompoundEdit_apply, List.map_append, List.map_append]
  exact (recounts_opening message q).append (hm.append (recounts_closing _))

theorem Accounted.asCompoundEdit {α : Type} {m : Change α} {message : String} (hq : q.Coherent)
    (hm : Accounted e start (q.opened message) (m (q.opened message))) :
    Accounted e start q (asCompoundEdit message m q) := by
  -- the brackets stand around the log of the body, and they are told on sound queries themselves
  refine ⟨recounts_asCompoundEdit hm.recounts, fun a ha => ?_, ?_⟩
  · rw [asCompoundEdit_apply] at ha
    rcases List.mem_append.mp ha with ha | ha
    · exact hq.sound_opening message a ha
    · rcases List.mem_append.mp ha with ha | ha
      · exact hm.sound a ha
      · exact hm.reached.sound_closing a ha
  · rw [asCompoundEdit_apply]
    exact hm.reached.closed

end Query

end VisualQuery
