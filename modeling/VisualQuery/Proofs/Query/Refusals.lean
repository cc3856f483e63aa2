import VisualQuery.Proofs.History

/-!
# Refused changes change nothing

A change that is refused leaves the query as it is, and nothing is announced (`Change.Atomic`). Most
changes have this from their shape: they look things up first (`Change.Reads`), and once they have
written something they can only end with a value (`Change.Total`). This holds at any query.

The removals are different. They write and announce before their last look-ups, as part of a
compound edit that is open by then. Here it takes the invariant: what is looked up late is there, so
a removal that has begun ends with a value (`Coherent.removeItem_atomic`,
`Coherent.removeTable_atomic`). Resetting goes through removals as well, but it passes over those
that are refused, so it cannot be refused itself.
-/

namespace VisualQuery

namespace Change

variable {α β : Type} {m : Change α} {f : α → Change β} {q q' : Query}

/-! ### Changes that only read -/

/-- The change leaves the query as it is and announces nothing, whether it is refused or not. -/
def Reads (m : Change α) : Prop := ∀ q, (m q).query = q ∧ (m q).log = []

namespace Reads

theorem pure (a : α) : Reads (pure a) := fun _ => ⟨rfl, rfl⟩

theorem get : Reads get := fun _ => ⟨rfl, rfl⟩

theorem refuse (e : QueryError) : Reads (refuse e : Change α) := fun _ => ⟨rfl, rfl⟩

theorem need (e : QueryError) (a : Option α) : Reads (need e a) := by
  cases a with
  | none => exact .refuse e
  | some a => exact .pure a

/-- A change that only reads either gives a value or is refused, and changes nothing. -/
theorem cases (h : Reads m) (q : Query) :
    (∃ a, m q = .silent a q) ∨ ∃ e, m q = .refused e q := by
  -- a step that only reads leaves the query and tells nothing, so its result is all there is
  obtain ⟨hquery, hlog⟩ := h q
  cases ho : m q with
  | mk result q' log =>
    rw [ho] at hquery hlog
    obtain rfl : q' = q := hquery
    obtain rfl : log = [] := hlog
    cases result with
    | ok a => exact Or.inl ⟨a, rfl⟩
    | error e => exact Or.inr ⟨e, rfl⟩

theorem bind (hm : Reads m) (hf : ∀ a, Reads (f a)) : Reads (m >>= f) := by
  intro q
  rcases hm.cases q with ⟨a, ha⟩ | ⟨e, he⟩
  · rw [bind_of_silent ha]
    exact hf a q
  · rw [bind_of_refused he]
    exact ⟨rfl, rfl⟩

end Reads

/-! ### Changes that cannot be refused -/

/-- The change ends with a value at every query. -/
def Total (m : Change α) : Prop := ∀ q, ∃ a q', Reaches m q a q'

namespace Total

theorem pure (a : α) : Total (pure a) := fun q => ⟨a, q, .pure a q⟩

theorem get : Total get := fun q => ⟨q, q, .get q⟩

theorem modify (g : Query → Query) : Total (modify g) := fun q => ⟨(), g q, .modify g q⟩

theorem announce (e : Event) : Total (announce e) := fun _ => ⟨(), _, rfl, rfl⟩

theorem attempt (m : Change α) : Total (attempt m) := fun _ => ⟨_, _, rfl, rfl⟩

theorem bind (hm : Total m) (hf : ∀ a, Total (f a)) : Total (m >>= f) := by
  intro q
  obtain ⟨a, q₁, ha⟩ := hm q
  obtain ⟨b, q₂, hb⟩ := hf a q₁
  exact ⟨b, q₂, ha.bind hb⟩

theorem ite {c : Prop} [Decidable c] {m m' : Change α} (hm : Total m) (hm' : Total m') :
    Total (if c then m else m') := by
  split
  · exact hm
  · exact hm'

/-- Writing to the query and telling the listeners. -/
theorem write (g : Query → Query) (e : Event) :
    Total (do Change.modify g; Change.announce e) := (modify g).bind fun _ => announce e

theorem announceAll (es : List Event) : Total (announceAll es) := by
  induction es with
  | nil => exact .pure ()
  | cons e rest ih => exact (announce e).bind fun _ => ih

end Total

/-! ### Changes that are made as a whole or not at all -/

/-- **If the change is refused, nothing happened**: the query is as it was, and nothing was
announced. -/
def Atomic (m : Change α) (q : Query) : Prop := ∀ e, (m q).result = .error e → m q = .refused e q

theorem Atomic.of_refused {e : QueryError} (h : m q = .refused e q) : Atomic m q := by
  intro e' he'
  rw [h] at he' ⊢
  rw [Except.error.inj he']

/-- A check that refuses stands before what is checked. -/
theorem Atomic.guard {c : Prop} [Decidable c] {e : QueryError} {g : Unit → Change α}
    (h : Atomic m q) : Atomic (if c then refuse e >>= g else m) q := by
  split
  · exact .of_refused (bind_of_refused (refuse_apply e q))
  · exact h

theorem Atomic.map (h : Atomic m q) (g : α → β) : Atomic (g <$> m) q := by
  intro e he
  rw [map_apply] at he ⊢
  cases hr : (m q).result with
  | ok a =>
    rw [hr] at he
    exact absurd he (by simp [Except.map])
  | error e' =>
    rw [h e' hr]
    rw [hr] at he
    rw [Except.error.inj he]
    rfl

theorem Reaches.atomic {a : α} (h : Reaches m q a q') : Atomic m q := by
  intro e he
  rw [h.1] at he
  exact absurd he (by simp)

theorem Total.atomic (h : Total m) (q : Query) : Atomic m q := by
  obtain ⟨a, q', hreach⟩ := h q
  exact hreach.atomic

/-- **Look-ups come first.** A change that only reads may stand before one that is made as a whole
or not at all. -/
theorem Reads.bind_atomic (hm : Reads m) (hf : ∀ a, Atomic (f a) q) : Atomic (m >>= f) q := by
  rcases hm.cases q with ⟨a, ha⟩ | ⟨e, he⟩
  · intro e he
    rw [bind_of_silent ha] at he ⊢
    exact hf a e he
  · exact .of_refused (bind_of_refused he)

/-- Once everything is looked up, what follows may write, as long as it cannot be refused. -/
theorem Reads.bind_total (hm : Reads m) (hf : ∀ a, Total (f a)) (q : Query) :
    Atomic (m >>= f) q := hm.bind_atomic fun a => (hf a).atomic q

end Change

namespace Query

open Change

variable {q : Query}

/-! ### Look-ups -/

theorem needContainer_reads (c : ContainerId) : Reads (needContainer c) :=
  .bind .get fun _ => .need _ _

theorem needItem_reads (id : ItemId) : Reads (needItem id) := by
  refine .bind .get fun _ => .bind (.need _ _) fun c => ?_
  exact .bind (needContainer_reads c) fun _ => .bind (.need _ _) fun _ => .pure _

theorem checkEnd_reads (id : JoinId) (e : JoinEnd) : Reads (checkEnd id e) := by
  intro q
  rw [checkEnd_apply]
  split <;> exact ⟨rfl, rfl⟩

/-! ### Changes to items and containers -/

theorem setItemProperty_atomic {β : Type} [DecidableEq β] (id : ItemId) (property : Property)
    (read : Item → β) (write : β → Item → Item) (show' : β → PropertyValue) (new : β) (q : Query) :
    Atomic (setItemProperty id property read write show' new) q := by
  rw [setItemProperty]
  refine (needItem_reads id).bind_total (fun found => ?_) q
  dsimp only
  exact .ite (.pure ()) (.write _ _)

theorem insertItem_atomic (c : ContainerId) (index : Nat) (x : Item) (q : Query) :
    Atomic (insertItem c index x) q := by
  rw [insertItem]
  refine Reads.get.bind_atomic fun q' => .guard ?_
  refine (needContainer_reads c).bind_total (fun _ => ?_) q
  refine (Total.modify _).bind fun _ => (Total.modify _).bind fun _ => ?_
  exact (Total.announce _).bind fun _ => .pure x.id

theorem addItem_atomic (c : ContainerId) (x : Item) (q : Query) : Atomic (addItem c x) q :=
  Reads.get.bind_atomic fun _ => insertItem_atomic c _ x q

theorem addConstant_atomic (id : ItemId) (text : String) (q : Query) :
    Atomic (addConstant id text) q := by
  rw [addConstant]
  exact .guard (Reads.get.bind_atomic fun _ => addItem_atomic _ _ q)

theorem setItemSelected_atomic (id : ItemId) (selected : Bool) (q : Query) :
    Atomic (setItemSelected id selected) q := by
  rw [setItemSelected]
  refine (needItem_reads id).bind_total (fun found => ?_) q
  dsimp only
  exact .ite (.pure ()) ((Total.modify _).bind fun _ => .write _ _)

theorem setSortOrder_atomic (id : ItemId) (order : SortOrder) (q : Query) :
    Atomic (setSortOrder id order) q := by
  rw [setSortOrder]
  refine (needItem_reads id).bind_total (fun found => ?_) q
  dsimp only
  exact .ite (.pure ()) ((Total.modify _).bind fun _ => .ite (.write _ _) (.announce _))

theorem moveSelectedItem_atomic (id : ItemId) (index : Nat) (q : Query) :
    Atomic (moveSelectedItem id index) q := by
  by_cases hid : id ∈ q.selection
  · exact (Reaches.of_announced (moveSelectedItem_of_mem hid index)).atomic
  · exact .of_refused (moveSelectedItem_of_notMem hid index)

theorem renameItem_atomic (id : ItemId) (name : String) (q : Query) :
    Atomic (renameItem id name) q := by
  rw [renameItem]
  exact .guard (setItemProperty_atomic id _ _ _ _ name q)

theorem addTable_atomic (c : Container) (q : Query) : Atomic (addTable c) q := by
  rw [addTable]
  refine .guard (Reads.get.bind_atomic fun q' => .guard ?_)
  dsimp only
  split
  · exact .of_refused (refuse_apply _ q)
  · refine ((Total.modify _).bind fun _ => (Total.modify _).bind fun _ => ?_).atomic q
    exact (Total.announce _).bind fun _ => .pure c.id

theorem setContainerProperty_atomic {β : Type} (id : ContainerId) (property : Property)
    (read : Container → β) (same : β → β → Bool) (write : β → Container → Container)
    (show' : β → PropertyValue) (new : β) (q : Query) :
    Atomic (setContainerProperty id property read same write show' new) q := by
  rw [setContainerProperty]
  refine (needContainer_reads id).bind_total (fun c => ?_) q
  dsimp only
  exact .ite (.pure ()) (.write _ _)

/-! ### Changes to joins -/

/-- Both ends are checked before the registry is asked, and the registry checks the join before it
takes it on. -/
theorem addJoin_atomic (j : Join) (q : Query) : Atomic (addJoin j) q := by
  rw [addJoin]
  refine (checkEnd_reads j.id j.left).bind_atomic fun _ => ?_
  refine (checkEnd_reads j.id j.right).bind_atomic fun _ => ?_
  refine Reads.get.bind_atomic fun q' => ?_
  split
  · exact .of_refused (refuse_apply _ q)
  · refine ((Total.modify _).bind fun _ => ?_).atomic q
    exact (Total.announce _).bind fun _ => .pure j.id

theorem joinItems_atomic (id : JoinId) (left right : ItemId) (q : Query) :
    Atomic (joinItems id left right) q := by
  rw [joinItems]
  refine Reads.get.bind_atomic fun _ => (Reads.need _ _).bind_atomic fun _ => ?_
  refine Reads.get.bind_atomic fun _ => (Reads.need _ _).bind_atomic fun _ => ?_
  exact addJoin_atomic _ q

theorem removeJoin_atomic (id : JoinId) (q : Query) : Atomic (removeJoin id) q := by
  cases hj : q.joins.get? id with
  | none => exact .of_refused (removeJoin_of_notMem hj)
  | some j => exact (Reaches.of_announced (removeJoin_of_get? hj)).atomic

/-- The targets of a flag are collected before the first of them is changed. -/
theorem setJoinOuter_atomic (id : JoinId) (side : Side) (outer : Bool) (q : Query) :
    Atomic (setJoinOuter id side outer) q := by
  rw [setJoinOuter]
  refine Reads.get.bind_atomic fun q' => ?_
  split
  · exact .of_refused (refuse_apply _ q)
  · exact ((Total.modify _).bind fun _ => .announceAll _).atomic q

theorem setJoinProperty_atomic {β : Type} [DecidableEq β] (id : JoinId) (property : Property)
    (read : Join → β) (write : β → Join → Join) (show' : β → PropertyValue) (new : β) (q : Query) :
    Atomic (setJoinProperty id property read write show' new) q := by
  rw [setJoinProperty]
  refine Reads.get.bind_atomic fun _ => (Reads.need _ _).bind_total (fun j => ?_) q
  dsimp only
  exact .ite (.pure ()) (.write _ _)

/-! ### Changes that are never refused -/

theorem startCompoundEdit_total (message : String) : Total (startCompoundEdit message) := fun q =>
  ⟨(), q.opened message, by
    rw [Reaches, startCompoundEdit_apply]
    exact ⟨rfl, rfl⟩⟩

theorem asCompoundEdit_total {α : Type} {m : Change α} (h : Total m) (message : String) :
    Total (asCompoundEdit message m) := by
  intro q
  obtain ⟨a, q', hreach⟩ := h (q.opened message)
  exact ⟨a, q'.closed, asCompoundEdit_reaches hreach⟩

theorem setSetting_total {β : Type} [DecidableEq β] (property : Property) (read : Query → β)
    (write : β → Query → Query) (show' : β → PropertyValue) (new : β) :
    Total (setSetting property read write show' new) := by
  rw [setSetting]
  refine Total.get.bind fun q => ?_
  dsimp only
  exact .ite (.pure ()) (.write _ _)

theorem defineOverride_total (text : String) : Total (defineOverride text) := by
  rw [defineOverride]
  refine Total.get.bind fun q => ?_
  exact .ite (setSetting_total _ _ _ _ _) (setSetting_total _ _ _ _ _)

theorem detachTables_total (ids : List ContainerId) : Total (detachTables ids) := by
  induction ids with
  | nil => exact .pure ()
  | cons id rest ih => exact (Total.attempt _).bind fun _ => ih

/-- A reset passes over what cannot be removed, and goes on. -/
theorem reset_total (ids : BuiltinIds) : Total (reset ids) := by
  refine asCompoundEdit_total ?_ _
  refine Total.get.bind fun q => (detachTables_total _).bind fun _ => ?_
  refine (Total.attempt _).bind fun _ => (setSetting_total _ _ _ _ _).bind fun _ => ?_
  refine (setSetting_total _ _ _ _ _).bind fun _ => (setSetting_total _ _ _ _ _).bind fun _ => ?_
  exact setSetting_total _ _ _ _ _

theorem endCompoundEdit_atomic (q : Query) : Atomic endCompoundEdit q := by
  have happly := endCompoundEdit_apply q
  by_cases hd : q.compoundDepth = 0
  · rw [if_pos hd] at happly
    exact .of_refused happly
  · rw [if_neg hd] at happly
    have hreach : Reaches endCompoundEdit q () q.closed := by
      rw [Reaches, happly]
      exact finishCompoundEdit_reaches q
    exact hreach.atomic

/-! ### Removals -/

namespace Coherent

/-- **A removal of an item that has begun is not refused any more.** -/
theorem removeItem_atomic (h : q.Coherent) (id : ItemId) : Atomic (Query.removeItem id) q := by
  by_cases hid : id ∈ q.items.map (·.id)
  · obtain ⟨x, hx, rfl⟩ := List.mem_map.mp hid
    exact (h.removeItem_of_mem hx).atomic
  · exact .of_refused (h.removeItem_of_notMem hid)

/-- **A removal of a table that has begun is not refused any more.** -/
theorem removeTable_atomic (h : q.Coherent) (id : ContainerId) :
    Atomic (Query.removeTable id) q := by
  by_cases hid : id = q.constants.id
  · rw [hid]
    exact .of_refused (removeTable_of_constants q)
  · cases htable : q.table? id with
    | none => exact .of_refused (removeTable_of_none hid htable)
    | some k =>
      obtain ⟨hk, rfl⟩ := h.housed.table?_iff.mp htable
      exact (h.removeTable_of_mem hk).atomic

/-- **Every edit is made as a whole or not at all**, whatever its arguments are. -/
theorem change_atomic (h : q.Coherent) (e : Edit) : Atomic e.change q := by
  -- what an edit returns does not matter
  cases e <;> refine Atomic.map ?_ _
  case startCompoundEdit message => exact (startCompoundEdit_total message).atomic q
  case endCompoundEdit => exact endCompoundEdit_atomic q
  case addTable table => exact addTable_atomic table q
  case removeTable id => exact h.removeTable_atomic id
  case setContainerAlias | setContainerPosition =>
    exact setContainerProperty_atomic _ _ _ _ _ _ _ q
  case addItem container item => exact addItem_atomic container item q
  case insertItem container index item => exact insertItem_atomic container index item q
  case addConstant id text => exact addConstant_atomic id text q
  case removeItem id => exact h.removeItem_atomic id
  case setItemSelected id selected => exact setItemSelected_atomic id selected q
  case setSortOrder id order => exact setSortOrder_atomic id order q
  case moveSelectedItem id index => exact moveSelectedItem_atomic id index q
  case renameItem id name => exact renameItem_atomic id name q
  case addJoin join => exact addJoin_atomic join q
  case joinItems id left right => exact joinItems_atomic id left right q
  case removeJoin id => exact removeJoin_atomic id q
  case setJoinOuter id side outer => exact setJoinOuter_atomic id side outer q
  case setJoinComparator id comparator => exact setJoinProperty_atomic id _ _ _ _ _ q
  case setJoinName id name => exact setJoinProperty_atomic id _ _ _ _ _ q
  case setSource source => exact (Total.modify _).atomic q
  case defineOverride text => exact (defineOverride_total text).atomic q
  case reset ids => exact (reset_total ids).atomic q
  case setItemAlias id text => exact setItemProperty_atomic id _ _ _ _ _ q
  case setItemFilter id text => exact setItemProperty_atomic id _ _ _ _ _ q
  case setItemHaving id text => exact setItemProperty_atomic id _ _ _ _ _ q
  case setGroupFunction id f => exact setItemProperty_atomic id _ _ _ _ _ q
  case setColumnWidth id width => exact setItemProperty_atomic id _ _ _ _ _ q
  -- what is left are the settings, which can always be set
  all_goals exact (setSetting_total _ _ _ _ _).atomic q

end Coherent

end Query

/-! ### Sessions -/

namespace Session

/-- **A refused edit changes nothing.** Take a session at a query that a history comes to, with any
listeners, and any edit with any arguments. If the edit is refused, then

* the session is as it was: the query with all that it keeps, the compound edit that is open, its
  message and its mark, and the listeners;
* no listener was told of anything. -/
theorem perform_refused {s : Session} (hs : s.query.Reachable) {e : Edit} {cause : QueryError}
    (h : (s.perform e).ending = .refused cause) :
    (s.perform e).session = s ∧ (s.perform e).told = [] := by
  have hatomic := hs.coherent.change_atomic e
  rw [perform] at h ⊢
  cases htell : tellAll s.bus (e.change s.query).log with
  | mk told failed =>
    rw [htell] at h
    cases failed with
    | some q => exact absurd h (by simp)
    | none =>
      dsimp only at h ⊢
      cases hr : (e.change s.query).result with
      | ok reply =>
        rw [hr] at h
        exact absurd h (by simp)
      | error cause' =>
        -- nothing was announced, so nobody was told
        have hrefused := hatomic cause' hr
        rw [hrefused] at htell ⊢
        obtain ⟨rfl, -⟩ := Prod.mk.inj htell
        exact ⟨rfl, rfl⟩

/-- A session at the sample query, with a listener that would fail at any new join. -/
def sampleSession : Session := ⟨sampleQuery, ⟨[⟨0, ⟨"log", some .joinAdded⟩⟩], 1⟩⟩

/-- In the sample two items are joined under an identity that is taken, which only the registry
finds out. -/
theorem perform_refused_sample :
    sampleSession.query.Reachable ∧
      (sampleSession.perform (.joinItems ⟨.ofNat 30⟩ ⟨.ofNat 12⟩ ⟨.ofNat 21⟩)).ending =
        .refused (.topology (.alreadyRegistered ⟨.ofNat 30⟩)) ∧
      (sampleSession.perform (.joinItems ⟨.ofNat 30⟩ ⟨.ofNat 12⟩ ⟨.ofNat 21⟩)).session =
        sampleSession ∧
      (sampleSession.perform (.joinItems ⟨.ofNat 30⟩ ⟨.ofNat 12⟩ ⟨.ofNat 21⟩)).told = [] := by
  have hrefused : (sampleSession.perform
      (.joinItems ⟨.ofNat 30⟩ ⟨.ofNat 12⟩ ⟨.ofNat 21⟩)).ending =
        .refused (.topology (.alreadyRegistered ⟨.ofNat 30⟩)) := rfl
  exact ⟨sampleQuery_reachable, hrefused,
    perform_refused (s := sampleSession) sampleQuery_reachable hrefused⟩

end Session

end VisualQuery
