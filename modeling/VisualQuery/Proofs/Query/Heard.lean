import VisualQuery.Proofs.Accounts.Cascades
import VisualQuery.Proofs.CompoundEdits.Moves
import VisualQuery.Proofs.EventLog

/-!
# What is heard of a cascade

A cascade announces what its steps announce, one after the other (`Query.events_bind`). What a step
announces depends on the query that it starts from, which `Reaches` tells, so a cascade is gone
through twice: once for the queries on its way and once, here, for the events.

A compound edit around a cascade adds the events that stand around it, but only if it is the
outermost one (`Query.bracketed`); the last of them is that the query may be run, because a cascade
that ends well has announced something.
-/

namespace VisualQuery

open Change

/-- The events of an outcome, in order. -/
def Outcome.events {α : Type} (o : Outcome α) : List Event := o.log.map (·.event)

/-- The event that an item is taken out of the selection. -/
def Item.deselection (x : Item) : Event :=
  .itemChanged ⟨x.id, .selected, .bool true, .bool false⟩

namespace Query

variable {α β : Type} {m : Change α} {f : α → Change β} {q q₁ q' : Query} {a : α}

/-! ### One step after another -/

theorem events_bind (h : Reaches m q a q₁) :
    ((m >>= f) q).events = (m q).events ++ (f a q₁).events := by
  unfold Outcome.events
  rw [bind_of_reaches h, List.map_append]

theorem events_announced {e : Event} (h : m q = .announced a q₁ e) : (m q).events = [e] := by
  unfold Outcome.events
  rw [h]
  rfl

theorem events_announceAll {es : List Event} (hes : ∀ e ∈ es, e.isMarker = false) (q : Query) :
    (announceAll es q).events = es := by
  unfold Outcome.events
  rw [announceAll_log hes, List.map_map]
  exact List.map_id es

/-! ### Compound edits -/

/-- Events with those of the compound edit around them, if it is the outermost one. -/
def bracketed (message : String) (q : Query) (es : List Event) : List Event :=
  if q.compoundDepth = 0 then
    .compoundStarted message :: es ++ [.compoundEnded message, .canExecute]
  else es

/-- A compound edit in which something was announced leaves its mark only if another one is open. -/
theorem closed_noted_opened (message : String) (q : Query) :
    (q.opened message).noted.closed =
      { q with
        compoundMessage := if q.compoundDepth = 0 then "" else q.compoundMessage
        pending := decide (0 < q.compoundDepth) } := by
  unfold opened
  -- closing the outermost bracket clears message and mark, an inner one keeps both
  by_cases hd : q.compoundDepth = 0
  · rw [if_pos hd, if_pos hd, decide_eq_false (Nat.not_lt.mpr (Nat.le_of_eq hd))]
    show ({ q with compoundDepth := 0, compoundMessage := "", pending := false } : Query) =
      { q with compoundMessage := "", pending := false }
    rw [hd]
  · have hpos : 0 < q.compoundDepth := Nat.pos_of_ne_zero hd
    have hle : ¬q.compoundDepth + 1 ≤ 1 := by omega
    have hmark : (q.pending || (true && decide (0 < q.compoundDepth + 1))) = true := by
      rw [decide_eq_true (Nat.succ_pos _), Bool.true_and, Bool.or_true]
    rw [if_neg hd, if_neg hd, decide_eq_true hpos]
    show (if q.compoundDepth + 1 ≤ 1 then _ else _) = _
    rw [if_neg hle]
    show ({ q with
      compoundDepth := q.compoundDepth + 1 - 1
      pending := q.pending || (true && decide (0 < q.compoundDepth + 1)) } : Query) = _
    rw [hmark, Nat.add_sub_cancel]

/-- The query is due to be run behind a change that was announced. -/
theorem events_asCompoundEdit {message : String} (h : Reaches m (q.opened message) a q'.noted)
    (hdepth : q'.compoundDepth = (q.opened message).compoundDepth)
    (hmessage : q'.compoundMessage = (q.opened message).compoundMessage) :
    (asCompoundEdit message m q).events =
      q.bracketed message (m (q.opened message)).events := by
  unfold Outcome.events
  rw [asCompoundEdit_apply, h.2, List.map_append, List.map_append, bracketed]
  by_cases hd : q.compoundDepth = 0
  · have hopened : (q.opened message).compoundDepth = 1 ∧
        (q.opened message).compoundMessage = message := by
      rw [opened, if_pos hd]
      exact ⟨rfl, rfl⟩
    have hdepth' : q'.noted.compoundDepth = 1 := hdepth.trans hopened.1
    have hmessage' : q'.noted.compoundMessage = message := hmessage.trans hopened.2
    have hpending : q'.noted.pending = true := by
      show (q'.pending || (true && decide (0 < q'.compoundDepth))) = true
      rw [hdepth.trans hopened.1]
      exact Bool.or_true _
    rw [if_pos hd, opening, if_pos hd, closing, if_pos (Nat.le_of_eq hdepth'), hmessage', hpending]
    rfl
  · -- inside another compound edit neither the start nor the end is told
    have hopened : (q.opened message).compoundDepth = q.compoundDepth + 1 := by
      rw [opened, if_neg hd]
    have hdepth' : ¬q'.noted.compoundDepth ≤ 1 := by
      show ¬q'.compoundDepth ≤ 1
      omega
    rw [if_neg hd, opening, if_neg hd, closing, if_neg hdepth', List.map_nil, List.nil_append,
      List.append_nil]

/-! ### Taking items out of the selection -/

theorem Coherent.events_deselect (h : q.Coherent) {x : Item} (hx : x ∈ q.items)
    (hselected : x.selected = true) :
    (Query.setItemSelected x.id false q).events = [x.deselection] := by
  have hmade : Query.setItemSelected x.id false q =
      .announced () (q.withSelected x false) x.deselection := by
    rw [h.setItemSelected_of_mem hx, if_neg (by rw [hselected]; decide)]
    rfl
  exact events_announced hmade

/-- Items that are selected are taken out of the selection one by one. -/
theorem Coherent.events_deselectAll (h : q.Coherent) {xs : List Item}
    (hxs : ∀ x ∈ xs, x ∈ q.items ∧ x.selected = true) (hnd : (xs.map (·.id)).Nodup) :
    (deselectAll (xs.map (·.id)) q).events = xs.map Item.deselection := by
  induction xs generalizing q with
  | nil => rfl
  | cons x xs ih =>
    obtain ⟨⟨hx, hselected⟩, hrest⟩ := List.forall_mem_cons.mp hxs
    rw [List.map_cons, List.nodup_cons] at hnd
    have hstep := h.deselectItem hx
    have hnext : ((q.deselect (· = x.id)).notedIf x.selected).Coherent := (h.deselect _).notedIf _
    -- the others are as before
    have hothers : ∀ y ∈ xs, y ∈ ((q.deselect (· = x.id)).notedIf x.selected).items ∧
        y.selected = true := by
      intro y hy
      have hne : y.id ≠ x.id := fun heq => hnd.1 (heq ▸ List.mem_map_of_mem hy)
      refine ⟨?_, (hrest y hy).2⟩
      show y ∈ (q.mapItems fun y =>
        { y with selected := y.selected && !decide (y.id = x.id) }).items
      rw [items_mapItems]
      refine List.mem_map.mpr ⟨y, (hrest y hy).1, ?_⟩
      rw [decide_eq_false hne, Bool.not_false, Bool.and_true]
    show ((Query.setItemSelected x.id false >>= fun _ => deselectAll (xs.map (·.id))) q).events = _
    rw [events_bind hstep, h.events_deselect hx hselected, ih hnext hothers hnd.2]
    rfl

/-! ### Taking an item out -/

/-- Only a selected item is told to leave the selection. -/
theorem Coherent.events_deselectItem (h : q.Coherent) {x : Item} (hx : x ∈ q.items) :
    (Query.setItemSelected x.id false q).events = if x.selected then [x.deselection] else [] := by
  cases hselected : x.selected with
  | true => exact h.events_deselect hx hselected
  | false =>
    rw [h.setItemSelected_of_mem hx, if_pos hselected]
    rfl

/-- Joins that are taken out one by one are announced as the registry gives them back. -/
theorem events_removeJoins (ids : List JoinId) (q : Query) :
    (removeJoins ids q).events = (q.joins.removeAll ids).1.map .joinRemoved := by
  induction ids generalizing q with
  | nil => rfl
  | cons id ids ih =>
    rw [removeJoins, JoinRegistry.removeAll, get_bind]
    cases hr : q.joins.remove? id with
    -- a join that is gone is not told
    | none => exact ih q
    | some removed =>
      obtain ⟨j, r⟩ := removed
      dsimp only
      rw [modify_bind, events_bind (Reaches.announce rfl _), ih]
      rfl

/-- **What is heard of an item that is taken out**: that it leaves the selection, which joins go,
and then the item itself. -/
theorem Coherent.events_detachItem (h : q.Coherent) {k : Container} (hk : k ∈ q.containers)
    {x : Item} (hx : x ∈ k.items) :
    (Query.detachItem x.id q).events =
      (if x.selected then [x.deselection] else []) ++
        ((q.joins.joins.filter (·.references x.id)).map .joinRemoved ++
          [.itemRemoved k.id x.id]) := by
  have hxq : x ∈ q.items := mem_items.mpr ⟨k, hk, hx⟩
  obtain ⟨htaken, -, -⟩ := h.joins.removeOfItem_eq x.id
  -- behind the first two steps the item is still there, but nothing refers to it
  let q₁ := (q.deselect (· = x.id)).notedIf x.selected
  let b := !(q₁.joins.removeAll (q₁.joins.idsOfItem x.id)).1.isEmpty
  let q₂ := ((q.release x.id).notedIf x.selected).notedIf b
  have hq₂ : q₂.Coherent := ((h.release x.id).notedIf _).notedIf _
  obtain ⟨k', hk', hid, hx'⟩ := mem_release hk hx
  have htake := hq₂.takeItem_of_free hk' hx' rfl fun j hj => h.references_release x.id hj
  have hlast := events_announced htake
  rw [hid] at hlast
  rw [detachItem_eq, events_bind (h.deselectItem hxq), h.events_deselectItem hxq, get_bind,
    events_bind (removeJoins_reaches _ q₁), events_removeJoins]
  refine congrArg (_ ++ ·) (congrArg₂ (· ++ ·) ?_ hlast)
  exact congrArg (List.map Event.joinRemoved) htaken

/-- **What is heard of an item that is removed.** -/
theorem Coherent.events_removeItem (h : q.Coherent) {k : Container} (hk : k ∈ q.containers)
    {x : Item} (hx : x ∈ k.items) :
    (Query.removeItem x.id q).events = q.bracketed ("Removing item " ++ x.name)
      ((if x.selected then [x.deselection] else []) ++
        ((q.joins.joins.filter (·.references x.id)).map .joinRemoved ++
          [.itemRemoved k.id x.id])) := by
  let message := "Removing item " ++ x.name
  have hxq : x ∈ q.items := mem_items.mpr ⟨k, hk, hx⟩
  have hopened : k ∈ (q.opened message).containers := by
    rw [containers_opened]
    exact hk
  have hreach := (h.opened message).detachItem_of_mem (mem_items.mpr ⟨k, hopened, hx⟩)
  have hevents := (h.opened message).events_detachItem hopened hx
  -- opening the bracket changes no list, so the events inside are those of the query outside
  rw [joins_opened] at hevents
  rw [Query.removeItem, get_bind, h.item?_of_mem hxq, bind_of_silent (need_some _ _ q),
    events_asCompoundEdit hreach rfl rfl, hevents]

/-! ### Taking a table out -/

theorem events_takeTable {k : Container} {id : ContainerId} (h : q.table? id = some k) :
    (takeTable id q).events = [.containerRemoved id] := by
  unfold Outcome.events takeTable
  rw [get_bind, h, bind_of_silent (need_some _ _ q), modify_bind, announce_return rfl]
  rfl

/-- The joins at a table are taken out at once, and announced one after the other. -/
theorem events_dropTable {k : Container} {id : ContainerId} (h : q.table? id = some k) :
    ((do
      let (removed, joins) := (← get).joins.removeContainer id
      modify fun q => { q with joins }
      announceAll (removed.map .joinRemoved)
      takeTable id : Change Container) q).events =
      (q.joins.removeContainer id).1.map .joinRemoved ++ [.containerRemoved id] := by
  have hmarker : ∀ e ∈ (q.joins.removeContainer id).1.map Event.joinRemoved,
      e.isMarker = false := by
    intro e he
    obtain ⟨j, -, rfl⟩ := List.mem_map.mp he
    rfl
  let q₁ : Query := { q with joins := (q.joins.removeContainer id).2 }
  -- neither the joins nor the mark matter to the table
  have htable : ∀ b, (q₁.notedIf b).table? id = some k := fun _ => h
  rw [get_bind]
  dsimp only
  rw [modify_bind, events_bind (Reaches.announceAll hmarker q₁), events_announceAll hmarker,
    events_takeTable (htable _)]

/-- **What is heard of a table that is taken out**: which of its items leave the selection, which
joins go, and then the table itself. -/
theorem Coherent.events_detachTable (h : q.Coherent) {k : Container} (hk : k ∈ q.tables) :
    (detachTable k.id q).events =
      (k.items.filter (·.selected)).map Item.deselection ++
        ((q.joins.joins.filter (·.touches k.id)).map .joinRemoved ++
          [.containerRemoved k.id]) := by
  have hkq : k ∈ q.containers := List.mem_cons_of_mem _ hk
  let xs := k.items.filter (·.selected)
  have hxs : ∀ x ∈ xs, x ∈ q.items ∧ x.selected = true := by
    intro x hx
    obtain ⟨hx, hselected⟩ := List.mem_filter.mp hx
    exact ⟨mem_items.mpr ⟨k, hkq, hx⟩, hselected⟩
  have hnd : (xs.map (·.id)).Nodup :=
    (h.housed.nodup_of_mem hkq).sublist (List.filter_sublist.map _)
  have hids : ∀ id ∈ xs.map (·.id), id ∈ q.items.map (·.id) := by
    intro id hid
    obtain ⟨x, hx, rfl⟩ := List.mem_map.mp hid
    exact List.mem_map_of_mem (hxs x hx).1
  obtain ⟨b, hdeselect⟩ := h.deselectAll_reaches hids
  obtain ⟨htaken, -, -⟩ := h.joins.removeContainer_eq k.id
  -- the table itself is still there
  let q₁ := (q.deselect (· ∈ xs.map (·.id))).notedIf b
  have hcoh := h.deselect (· ∈ xs.map (·.id))
  have hhoused : Housed q₁.containers q₁.itemIndex := hcoh.housed
  have htable : q₁.table? k.id = some (k.mapItems fun x =>
      { x with selected := x.selected && !decide (x.id ∈ xs.map (·.id)) }) :=
    hhoused.table?_iff.mpr ⟨List.mem_map_of_mem hk, rfl⟩
  have hdrop := events_dropTable htable
  -- the items that leave the selection are told first, and then what becomes of the table
  rw [detachTable_eq, get_bind, h.housed.table?_iff.mpr ⟨hk, rfl⟩,
    bind_of_silent (need_some _ _ q), events_bind hdeselect, h.events_deselectAll hxs hnd]
  rw [← htaken]
  exact congrArg (xs.map Item.deselection ++ ·) hdrop

/-- **What is heard of a table that is removed.** -/
theorem Coherent.events_removeTable (h : q.Coherent) {k : Container} (hk : k ∈ q.tables) :
    (Query.removeTable k.id q).events = q.bracketed ("Removing table " ++ k.name)
      ((k.items.filter (·.selected)).map Item.deselection ++
        ((q.joins.joins.filter (·.touches k.id)).map .joinRemoved ++
          [.containerRemoved k.id])) := by
  have hne := h.id_ne_constants hk
  let message := "Removing table " ++ k.name
  -- the removal runs inside a bracket, which changes neither tables nor joins
  have hopened : k ∈ (q.opened message).tables := by
    rw [tables_opened]
    exact hk
  have hreach := (h.opened message).detachTable_of_mem hopened
  have hevents := (h.opened message).events_detachTable hopened
  rw [joins_opened] at hevents
  rw [Query.removeTable, get_bind, if_neg hne]
  show ((get >>= _) q).events = _
  rw [get_bind, h.housed.table?_iff.mpr ⟨hk, rfl⟩, bind_of_silent (need_some _ _ q),
    events_asCompoundEdit hreach rfl rfl, hevents]

end Query

/-- As long as no listener fails, an edit that ends well is made, and all that is announced is
heard. -/
theorem Session.perform_made {s : Session} (hbus : s.bus.Quiet) {e : Edit} {α : Type}
    {m : Change α} {reply : α → Reply} (he : e.change = reply <$> m) {a : α} {q' : Query}
    (hm : Reaches m s.query a q') :
    s.perform e =
      { ending := .made (reply a)
        session := ⟨q', s.bus⟩
        told := (m s.query).events.flatMap s.bus.deliveries } := by
  rw [perform_of_quiet hbus, he, map_apply, hm.1, hm.2]
  rfl

end VisualQuery
