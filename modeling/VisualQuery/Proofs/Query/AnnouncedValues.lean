import VisualQuery.Proofs.Accounts.Log
import VisualQuery.Proofs.Json.Compact
import VisualQuery.Proofs.Query.Heard

/-!
# The values that events announce

An event about a property carries its old and its new value. What is told to the listeners of a
setter is always true: the old value was stored before, the new one is stored afterwards, and the
two differ (`Query.Announces`).

What an event carries is not always all there is. A limit on rows is a number of 64 bits without a
sign, and an event has room for 63 of them; a greater limit is left out (`PropertyValue.carried`).
So the event tells the new value from the old one if and only if at least one of them fits. No other
property has such values: a zoom level and a width have 32 bits, and a position is carried as its
text, which two positions share only if they are the same (`Json.same_of_compact_eq`).

A setter announces one change at most. The setter of an outer flag is the exception: it changes all
joins at a table and tells of each by itself. For every setter it has to be shown that the value is
read back behind the change as it was written, and that values that differ look different in an
event.
-/

namespace VisualQuery

open Change

/-! ### Numbers that fit -/

namespace PropertyValue

/-- Whether an event can carry a value: a number has to fit a signed word of 64 bits. -/
def Fits : PropertyValue → Prop
  | .integer (some n) => -0x8000000000000000 ≤ n ∧ n < 0x8000000000000000
  | _ => True

instance : DecidablePred Fits := fun v => by
  unfold Fits
  split <;> infer_instance

/-- The value as an event carries it: a number that does not fit is left out. -/
def carried (v : PropertyValue) : PropertyValue := if v.Fits then v else .integer none

theorem ofNat_eq (n : Nat) : ofNat n = carried (.integer (some n)) := by
  have hiff : Fits (.integer (some n)) ↔ n < 0x8000000000000000 := by
    unfold Fits
    omega
  unfold ofNat carried
  by_cases h : n < 0x8000000000000000
  · rw [if_pos h, if_pos (hiff.mpr h)]
  · rw [if_neg h, if_neg (mt hiff.mp h)]

theorem carried_of_fits {v : PropertyValue} (h : v.Fits) : v.carried = v := if_pos h

/-- Two numbers that do not fit look the same; one that fits looks like no other number. -/
theorem carried_ne_iff {n m : Int} (hne : n ≠ m) :
    carried (.integer (some n)) ≠ carried (.integer (some m)) ↔
      Fits (.integer (some n)) ∨ Fits (.integer (some m)) := by
  unfold carried
  by_cases hn : Fits (.integer (some n)) <;> by_cases hm : Fits (.integer (some m))
  · simp [hn, hm, hne]
  · simp [hn, hm]
  · simp [hn, hm]
  · simp [hn, hm]

end PropertyValue

/-- Whether a property is a limit on rows. -/
def Property.isLimit : Property → Bool
  | .rowLimit | .streamingRowLimit => true
  | _ => false

namespace Query

/-- The value of a property as it is stored, also where it does not fit an event. -/
def stored? (q : Query) (t : Target) : Property → Option PropertyValue
  | .rowLimit => if t = .query q.id then some (.integer (some q.rowLimit.toNat)) else none
  | .streamingRowLimit =>
    if t = .query q.id then some (.integer (some q.streamingRowLimit.toNat)) else none
  | p => q.value? t p

variable {q q' : Query} {t : Target} {p : Property} {v old new : PropertyValue}

theorem stored?_eq_value? (hp : p.isLimit = false) : q.stored? t p = q.value? t p := by
  cases p <;> first | rfl | exact absurd hp (by decide)

/-- A limit is a number, whether it fits or not. -/
theorem exists_of_isLimit (hp : p.isLimit = true) (hv : q.stored? t p = some v) :
    ∃ n : Nat, v = .integer (some n) := by
  cases p with
  | rowLimit =>
    obtain ⟨-, hv⟩ := Option.ite_none_right_eq_some.mp hv
    exact ⟨_, (Option.some.inj hv).symm⟩
  | streamingRowLimit =>
    obtain ⟨-, hv⟩ := Option.ite_none_right_eq_some.mp hv
    exact ⟨_, (Option.some.inj hv).symm⟩
  | _ => exact absurd hp (by decide)

theorem fits_of_setting? (hp : p.isLimit = false) (hv : q.setting? p = some v) : v.Fits := by
  cases p with
  | name | globalWhere | groupingEnabled | streaming | userOverride =>
    obtain rfl := Option.some.inj hv
    trivial
  | zoomLevel =>
    obtain rfl := Option.some.inj hv
    have hlow := q.zoom.le_toInt
    have hhigh := q.zoom.toInt_lt
    unfold PropertyValue.Fits
    omega
  -- the two limits have 64 bits without a sign and are what the hypothesis leaves out
  | rowLimit | streamingRowLimit => exact absurd hp (by decide)
  | _ => exact absurd hv (by simp [setting?])

end Query

theorem Item.fits_of_value? {x : Item} {p : Property} {v : PropertyValue}
    (hv : x.value? p = some v) : v.Fits := by
  cases p with
  | name | aliasText | whereFragment | groupFunction | having | selected | sortOrder =>
    obtain rfl := Option.some.inj hv
    trivial
  -- a width has 32 bits, so it always fits
  | columnWidth =>
    obtain rfl := Option.some.inj hv
    cases hwidth : x.columnWidth with
    | none => trivial
    | some n =>
      have hlt := n.toNat_lt
      simp only [Option.map_some, PropertyValue.Fits]
      omega
  | _ => exact absurd hv (by simp [Item.value?])

theorem Container.fits_of_value? {k : Container} {p : Property} {v : PropertyValue}
    (hv : k.value? p = some v) : v.Fits := by
  cases p with
  | aliasText | position =>
    obtain rfl := Option.some.inj hv
    trivial
  | _ => exact absurd hv (by simp [Container.value?])

theorem Join.fits_of_value? {j : Join} {p : Property} {v : PropertyValue}
    (hv : j.value? p = some v) : v.Fits := by
  cases p with
  | name | leftOuter | rightOuter | comparator =>
    obtain rfl := Option.some.inj hv
    trivial
  | _ => exact absurd hv (by simp [Join.value?])

/-- The property of a join that is the outer flag on a side. -/
def Side.outerProperty : Side → Property
  | .left => .leftOuter
  | .right => .rightOuter

theorem Side.isLimit_outerProperty (side : Side) : side.outerProperty.isLimit = false := by
  cases side <;> rfl

theorem Join.value?_outerProperty (j : Join) (side : Side) :
    j.value? side.outerProperty = some (.bool (j.atSide side).outer) := by
  cases side <;> rfl

namespace Query

variable {q q' : Query} {t : Target} {p : Property} {v old new : PropertyValue}

theorem change?_outerEvent (change : OuterChange) :
    (outerEvent change).change? =
      some ⟨.join change.join, change.side.outerProperty, .bool change.old, .bool change.new⟩ := by
  obtain ⟨join, side, old, new⟩ := change
  cases side <;> rfl

/-- Only a limit on rows can be too great for an event. -/
theorem fits_of_value? (hp : p.isLimit = false) (hv : q.value? t p = some v) : v.Fits := by
  cases t with
  | query id =>
    obtain ⟨-, hv⟩ := Option.ite_none_right_eq_some.mp hv
    exact fits_of_setting? hp hv
  | container c =>
    obtain ⟨k, -, hv⟩ := Option.bind_eq_some_iff.mp hv
    exact Container.fits_of_value? hv
  | item x =>
    obtain ⟨y, -, hv⟩ := Option.bind_eq_some_iff.mp hv
    exact Item.fits_of_value? hv
  | join j =>
    obtain ⟨k, -, hv⟩ := Option.bind_eq_some_iff.mp hv
    exact Join.fits_of_value? hv

/-! ### What is announced -/

/-- The change of a property is announced as it is, as far as an event can carry it. -/
structure Announces (q q' : Query) (c : PropertyChange Target) (old new : PropertyValue) :
    Prop where
  /-- The old value was stored before. -/
  before : q.stored? c.target c.property = some old
  /-- The new value is stored now. -/
  after : q'.stored? c.target c.property = some new
  /-- The two differ. -/
  differ : old ≠ new
  /-- The event carries the old value. -/
  old_carried : c.old = old.carried
  /-- The event carries the new value. -/
  new_carried : c.new = new.carried

theorem Announces.of_values (hp : p.isLimit = false) (hold : q.value? t p = some old)
    (hnew : q'.value? t p = some new) (hne : old ≠ new) :
    q.Announces q' ⟨t, p, old, new⟩ old new where
  before := (stored?_eq_value? hp).trans hold
  after := (stored?_eq_value? hp).trans hnew
  differ := hne
  old_carried := (PropertyValue.carried_of_fits (fits_of_value? hp hold)).symm
  new_carried := (PropertyValue.carried_of_fits (fits_of_value? hp hnew)).symm

/-- Every event of an outcome announces the change of a property, from its value at the query that
the change started from to its value at the query that it came to. -/
def AnnouncesAll {α : Type} (q : Query) (o : Outcome α) : Prop :=
  ∀ event ∈ o.events, ∃ c old new, event.change? = some c ∧ q.Announces o.query c old new

namespace AnnouncesAll

theorem of_events_nil {α : Type} {o : Outcome α} (h : o.events = []) : q.AnnouncesAll o := by
  intro event hevent
  rw [h] at hevent
  exact absurd hevent List.not_mem_nil

/-- One change, which the mark of an open compound edit does not touch. -/
theorem of_announced {α : Type} {a : α} {event : Event} {c : PropertyChange Target}
    (hchange : event.change? = some c) (h : q.Announces q' c old new) :
    q.AnnouncesAll (Outcome.announced a q' event) := by
  intro event' hevent
  obtain rfl := List.mem_singleton.mp hevent
  have hafter : q'.noted.stored? c.target c.property = some new := by
    rw [← h.after]
    cases c.property <;> rfl
  exact ⟨c, old, new, hchange, h.before, hafter, h.differ, h.old_carried, h.new_carried⟩

/-- A value that is there already is left alone; another one is announced. -/
theorem of_unless {same : Prop} [Decidable same] {event : Event} {c : PropertyChange Target}
    (hchange : event.change? = some c) (h : ¬ same → q.Announces q' c old new) :
    q.AnnouncesAll (if same then .silent () q else .announced () q' event) := by
  split
  · exact .of_events_nil rfl
  · next hne => exact .of_announced hchange (h hne)

theorem map {α β : Type} {m : Change α} {f : α → β} (h : q.AnnouncesAll (m q)) :
    q.AnnouncesAll ((f <$> m) q) := by
  rw [map_apply]
  exact h

end AnnouncesAll

/-! ### Settings -/

section Settings

variable {β : Type} [DecidableEq β] {property : Property} {read : Query → β}
  {write : β → Query → Query} {show' : β → PropertyValue} {next : β}

/-- A setting is changed to another value. -/
theorem announcesAll_setSetting (hp : property.isLimit = false) (hshow : Function.Injective show')
    (hread : ∀ q, q.setting? property = some (show' (read q))) (hnew : read (write next q) = next)
    (hid : (write next q).id = q.id) :
    q.AnnouncesAll (setSetting property read write show' next q) := by
  rw [setSetting_apply]
  refine .of_unless rfl fun hne => .of_values hp ?_ ?_ (hshow.ne hne)
  · rw [value?, if_pos rfl, hread]
  · rw [value?, if_pos hid.symm, hread, hnew]

/-- A limit on rows is changed to another one. -/
theorem announcesAll_setLimit {read : Query → UInt64} {write : UInt64 → Query → Query}
    {limit : UInt64} (hread : ∀ q : Query,
      q.stored? (.query q.id) property = some (.integer (some (read q).toNat)))
    (hnew : read (write limit q) = limit) (hid : (write limit q).id = q.id) :
    q.AnnouncesAll (setSetting property read write (fun n => .ofNat n.toNat) limit q) := by
  rw [setSetting_apply]
  have hafter : (write limit q).stored? (.query q.id) property =
      some (.integer (some limit.toNat)) := by
    rw [← hid, hread, hnew]
  refine .of_unless rfl fun hne =>
    ⟨hread q, hafter, fun heq => hne ?_, PropertyValue.ofNat_eq _, PropertyValue.ofNat_eq _⟩
  -- equal numbers are equal limits, and those would not have been told
  simp only [PropertyValue.integer.injEq, Option.some.injEq, Nat.cast_inj] at heq
  exact UInt64.toNat_inj.mp heq

end Settings

/-! ### Containers -/

namespace Coherent

theorem announces_modifyContainer (h : q.Coherent) {k : Container} (hk : k ∈ q.containers)
    {f : Container → Container}
    (hf : ∀ k, (f k).id = k.id ∧ (f k).items = k.items ∧ (f k).kind = k.kind)
    (hp : p.isLimit = false) (hold : k.value? p = some old) (hnew : (f k).value? p = some new)
    (hne : old ≠ new) :
    q.Announces (q.modifyContainer k.id f) ⟨.container k.id, p, old, new⟩ old new := by
  have hcoh := h.modifyContainer k.id hf
  -- the old value is read off the container as it was, the new one off what it became
  refine .of_values hp (h.value?_iff.mpr ⟨k, hk, rfl, hold⟩)
    (hcoh.value?_iff.mpr ⟨f k, ?_, (hf k).1, hnew⟩) hne
  rw [h.housed.modifyContainer_eq, containers_mapContainers]
  exact List.mem_map.mpr ⟨k, hk, if_pos rfl⟩

/-- A property of a container is announced with what it was and what it is, which are different
unless the two are the same. -/
theorem announcesAll_setContainerProperty {β : Type} (h : q.Coherent) (id : ContainerId)
    {read : Container → β} {same : β → β → Bool} {write : β → Container → Container}
    {show' : β → PropertyValue} {new : β} (hp : p.isLimit = false)
    (hwrite : ∀ k, (write new k).id = k.id ∧ (write new k).items = k.items ∧
      (write new k).kind = k.kind)
    (hread : ∀ k, k.value? p = some (show' (read k)))
    (hnew : ∀ k, (write new k).value? p = some (show' new))
    (hshow : ∀ old, show' old = show' new → same old new = true) :
    q.AnnouncesAll (Query.setContainerProperty id p read same write show' new q) := by
  cases hk : q.container? id with
  | none =>
    rw [setContainerProperty_of_none _ _ _ _ _ _ hk]
    exact .of_events_nil rfl
  | some k =>
    rw [setContainerProperty_of_some _ _ _ _ _ _ hk]
    obtain ⟨hkq, rfl⟩ := h.housed.container?_iff.mp hk
    -- an edit that is told compared the two values and found them different
    exact .of_unless rfl fun hne => h.announces_modifyContainer hkq hwrite hp (hread k) (hnew k)
      fun heq => hne (hshow _ heq)

/-! ### Items -/

theorem announces_mapItem (h : q.Coherent) {x : Item} (hx : x ∈ q.items) {f : Item → Item}
    {selection sortList : List ItemId}
    (hcoh : { q.mapItems (Container.onItem x.id f) with selection, sortList }.Coherent)
    (hid : (f x).id = x.id) (hp : p.isLimit = false) (hold : x.value? p = some old)
    (hnew : (f x).value? p = some new) (hne : old ≠ new) :
    q.Announces { q.mapItems (Container.onItem x.id f) with selection, sortList }
      ⟨.item x.id, p, old, new⟩ old new := by
  refine .of_values hp (h.value?_iff.mpr ⟨x, hx, rfl, hold⟩)
    (hcoh.value?_iff.mpr ⟨f x, ?_, hid, hnew⟩) hne
  show f x ∈ (q.mapItems (Container.onItem x.id f)).items
  rw [items_mapItems]
  exact List.mem_map.mpr ⟨x, hx, Container.onItem_self f x⟩

theorem announcesAll_setItemProperty {β : Type} [DecidableEq β] (h : q.Coherent) (id : ItemId)
    {property : Property} (hp : property.isLimit = false) {read : Item → β}
    {write : β → Item → Item} {show' : β → PropertyValue} {next : β}
    (hwrite : ∀ x, (write next x).id = x.id ∧ (write next x).parent = x.parent ∧
      (write next x).selected = x.selected ∧ (write next x).isSorted = x.isSorted)
    (hshow : Function.Injective show') (hread : ∀ x, x.value? property = some (show' (read x)))
    (hnew : ∀ x, read (write next x) = next) :
    q.AnnouncesAll (Query.setItemProperty id property read write show' next q) := by
  by_cases hid : id ∈ q.items.map (·.id)
  · obtain ⟨x, hx, rfl⟩ := List.mem_map.mp hid
    rw [h.setItemProperty_of_mem hx]
    -- the flags and the order are untouched, so no list of the query changes with the item
    refine .of_unless rfl fun hne => h.announces_mapItem hx (h.writeItem x.id hwrite) (hwrite x).1
      hp (hread x) ?_ (hshow.ne hne)
    rw [hread, hnew]
  · rw [h.setItemProperty_of_notMem hid]
    exact .of_events_nil rfl

theorem announcesAll_renameItem (h : q.Coherent) (id : ItemId) (name : String) :
    q.AnnouncesAll (Query.renameItem id name q) := by
  rw [Query.renameItem]
  split
  · rw [bind_of_refused (refuse_apply _ q)]
    exact .of_events_nil rfl
  · refine h.announcesAll_setItemProperty id rfl (fun _ => ⟨rfl, rfl, rfl, rfl⟩) ?_ (fun _ => rfl)
      fun _ => rfl
    exact fun _ _ heq => Option.some.inj (PropertyValue.text.inj heq)

theorem announcesAll_setItemSelected (h : q.Coherent) (id : ItemId) (on : Bool) :
    q.AnnouncesAll (Query.setItemSelected id on q) := by
  by_cases hid : id ∈ q.items.map (·.id)
  · obtain ⟨x, hx, rfl⟩ := List.mem_map.mp hid
    rw [h.setItemSelected_of_mem hx]
    refine .of_unless rfl fun hne => h.announces_mapItem (f := fun y => { y with selected := on })
      hx (h.withSelected hx on) rfl rfl ?_ rfl fun heq => ?_
    · -- the old value that is told is the negation of the new one
      rw [Item.value?, Bool.eq_not_of_ne hne]
    · exact Bool.not_ne_self on (PropertyValue.bool.inj heq)
  · rw [h.setItemSelected_of_notMem hid]
    exact .of_events_nil rfl

theorem announcesAll_setSortOrder (h : q.Coherent) (id : ItemId) (order : SortOrder) :
    q.AnnouncesAll (Query.setSortOrder id order q) := by
  by_cases hid : id ∈ q.items.map (·.id)
  · obtain ⟨x, hx, rfl⟩ := List.mem_map.mp hid
    rw [h.setSortOrder_of_mem hx]
    refine .of_unless rfl fun hne => h.announces_mapItem
      (f := fun y => { y with sortOrder := order }) hx (h.withSortOrder hx order) rfl rfl rfl rfl
      fun heq => hne ?_
    exact PropertyValue.sort.inj heq
  · rw [h.setSortOrder_of_notMem hid]
    exact .of_events_nil rfl

end Coherent

/-! ### Joins -/

theorem announcesAll_setJoinProperty {β : Type} [DecidableEq β] (id : JoinId)
    {property : Property} (hp : property.isLimit = false) {read : Join → β}
    {write : β → Join → Join} {show' : β → PropertyValue} {next : β}
    (hid : ∀ j, (write next j).id = j.id) (hshow : Function.Injective show')
    (hread : ∀ j, j.value? property = some (show' (read j)))
    (hnew : ∀ j, read (write next j) = next) (q : Query) :
    q.AnnouncesAll (Query.setJoinProperty id property read write show' next q) := by
  rw [setJoinProperty_apply]
  cases hj : q.joins.get? id with
  | none => exact .of_events_nil rfl
  | some j =>
    refine .of_unless rfl fun hne => .of_values hp ?_ ?_ (hshow.ne hne)
    · rw [value?, hj]
      exact hread j
    · show ((q.joins.modify id (write next)).get? id).bind (·.value? property) = _
      rw [JoinRegistry.get?_modify hid, hj, Option.map_some,
        if_pos (JoinRegistry.get?_eq_some hj).2, Option.bind_some, hread, hnew]

theorem value?_outerProperty (h : q.joins.Coherent) {k : Join} (hk : k ∈ q.joins.joins)
    (side : Side) :
    q.value? (.join k.id) side.outerProperty = some (.bool (k.atSide side).outer) := by
  rw [value?, h.get?_id hk, Option.bind_some, Join.value?_outerProperty]

/-- What is heard of an outer flag: every join at the table that has the other one. -/
theorem Coherent.events_setJoinOuter (h : q.Coherent) {j : Join} (hj : j ∈ q.joins.joins)
    (side : Side) (outer : Bool) :
    (Query.setJoinOuter j.id side outer q).events =
      (q.joins.joins.filterMap
        (JoinRegistry.outerChange? (j.atSide side).container outer)).map outerEvent := by
  rw [Query.setJoinOuter, get_bind, h.joins.setOuter_eq hj]
  dsimp only
  rw [modify_bind, events_announceAll (isMarker_outerEvents _)]

/-- Every join at the table whose flag differs is told of by itself, and all of them have the flag
afterwards. -/
theorem Coherent.announcesAll_setJoinOuter (h : q.Coherent) (id : JoinId) (side : Side)
    (outer : Bool) : q.AnnouncesAll (Query.setJoinOuter id side outer q) := by
  by_cases hid : id ∈ q.joins.ids
  · obtain ⟨j, hj, rfl⟩ := h.joins.mem_ids.mp hid
    let c := (j.atSide side).container
    have hreached := (h.setJoinOuter_of_mem hj side outer).2
    intro event hevent
    rw [h.events_setJoinOuter hj] at hevent
    obtain ⟨change, hchange, rfl⟩ := List.mem_map.mp hevent
    obtain ⟨k, hk, hkc⟩ := List.mem_filterMap.mp hchange
    obtain ⟨t, ht, hside⟩ := Option.bind_eq_some_iff.mp hkc
    split at hside
    · exact absurd hside (by simp)
    · next hne =>
      obtain rfl := Option.some.inj hside
      -- behind the change the join has the flag on this side, whatever else was changed
      have hnew : (Query.setJoinOuter j.id side outer q).query.value? (.join k.id)
          t.outerProperty = some (.bool outer) := by
        have hflag : ((k.setOuterAt c outer).atSide t).outer = outer := by
          rw [Join.setOuterAt_outer c outer (h.joins.apart k hk),
            if_pos (Join.container_of_sideOf? ht)]
        have hvalue := value?_outerProperty (q := { q with joins := q.joins.setOuterAt c outer })
          (h.joins.setOuterAt c outer) (List.mem_map_of_mem hk) t
        rw [hflag, Join.setOuterAt_id] at hvalue
        rw [hreached]
        exact hvalue
      exact ⟨_, _, _, change?_outerEvent _, .of_values t.isLimit_outerProperty
        (value?_outerProperty h.joins hk t) hnew fun heq => hne (PropertyValue.bool.inj heq)⟩
  · rw [h.setJoinOuter_of_notMem hid]
    exact .of_events_nil rfl

end Query

/-! ### Setters -/

/-- Whether an edit sets a property of somebody. -/
def Edit.isSetter : Edit → Bool
  | .setContainerAlias .. | .setContainerPosition .. | .setItemSelected .. | .setSortOrder ..
  | .renameItem .. | .setItemAlias .. | .setItemFilter .. | .setItemHaving ..
  | .setGroupFunction .. | .setColumnWidth .. | .setJoinOuter .. | .setJoinComparator ..
  | .setJoinName .. | .setName _ | .setGlobalWhere _ | .setGrouping _ | .setRowLimit _
  | .setStreamingRowLimit _ | .setStreaming _ | .setZoom _ | .setSource _ | .defineOverride _
  | .clearOverride => true
  | _ => false

namespace Query

variable {q q' : Query} {e : Edit}

theorem announcesAll_setOverride (text : Option String) (q : Query) :
    q.AnnouncesAll (setSetting .userOverride (·.userOverride)
      (fun userOverride q => { q with userOverride }) .text text q) :=
  announcesAll_setSetting rfl (fun _ _ => PropertyValue.text.inj) (fun _ => rfl) rfl rfl

/-- **Each setter, by itself.** -/
theorem Coherent.announcesAll_change (h : q.Coherent) (he : e.isSetter = true) :
    q.AnnouncesAll (e.change q) := by
  cases e <;> first
    | exact absurd he Bool.false_ne_true
    | (rw [Edit.change]; refine AnnouncesAll.map ?_)
  case setContainerAlias id text =>
    exact h.announcesAll_setContainerProperty id rfl (fun _ => ⟨rfl, rfl, rfl⟩) (fun _ => rfl)
      (fun _ => rfl) fun _ heq => decide_eq_true (PropertyValue.text.inj heq)
  case setContainerPosition id position =>
    -- positions that are not the same have different texts
    exact h.announcesAll_setContainerProperty id rfl (fun _ => ⟨rfl, rfl, rfl⟩) (fun _ => rfl)
      (fun _ => rfl) fun _ heq =>
        Json.same_of_compact_eq (Option.some.inj (PropertyValue.text.inj heq))
  case setItemSelected id on => exact h.announcesAll_setItemSelected id on
  case setSortOrder id order => exact h.announcesAll_setSortOrder id order
  case renameItem id name => exact h.announcesAll_renameItem id name
  case setItemAlias | setItemFilter | setItemHaving =>
    exact h.announcesAll_setItemProperty _ rfl (fun _ => ⟨rfl, rfl, rfl, rfl⟩)
      (fun _ _ => PropertyValue.text.inj) (fun _ => rfl) fun _ => rfl
  case setGroupFunction =>
    exact h.announcesAll_setItemProperty _ rfl (fun _ => ⟨rfl, rfl, rfl, rfl⟩)
      (fun _ _ => PropertyValue.group.inj) (fun _ => rfl) fun _ => rfl
  case setColumnWidth =>
    refine h.announcesAll_setItemProperty _ rfl (fun _ => ⟨rfl, rfl, rfl, rfl⟩) ?_ (fun _ => rfl)
      fun _ => rfl
    -- a width is a number of 32 bits, and no width is not a number
    intro w w' heq
    refine Option.map_injective (fun n n' hn => ?_) (PropertyValue.integer.inj heq)
    exact UInt32.toNat_inj.mp (Int.ofNat.inj hn)
  case setJoinOuter id side outer => exact h.announcesAll_setJoinOuter id side outer
  case setJoinComparator =>
    exact announcesAll_setJoinProperty _ rfl (fun _ => rfl)
      (fun _ _ => PropertyValue.comparator.inj) (fun _ => rfl) (fun _ => rfl) q
  case setJoinName =>
    exact announcesAll_setJoinProperty _ rfl (fun _ => rfl)
      (fun _ _ => PropertyValue.text.inj) (fun _ => rfl) (fun _ => rfl) q
  case setName =>
    exact announcesAll_setSetting rfl
      (fun _ _ heq => Option.some.inj (PropertyValue.text.inj heq)) (fun _ => rfl) rfl rfl
  case setGlobalWhere =>
    exact announcesAll_setSetting rfl (fun _ _ => PropertyValue.text.inj) (fun _ => rfl) rfl rfl
  case setGrouping | setStreaming =>
    exact announcesAll_setSetting rfl (fun _ _ => PropertyValue.bool.inj) (fun _ => rfl) rfl rfl
  case setRowLimit | setStreamingRowLimit =>
    exact announcesAll_setLimit (fun _ => if_pos rfl) rfl rfl
  case setZoom =>
    refine announcesAll_setSetting rfl (fun z z' heq => ?_) (fun _ => rfl) rfl rfl
    exact Int32.toInt_inj.mp (Option.some.inj (PropertyValue.integer.inj heq))
  case setSource => exact .of_events_nil rfl
  case defineOverride text =>
    rw [Query.defineOverride, get_bind]
    split
    · exact announcesAll_setOverride none q
    · exact announcesAll_setOverride (some text) q
  case clearOverride => exact announcesAll_setOverride none q

/-! ### What can be told from an event -/

namespace Announces

variable {c : PropertyChange Target} {old new : PropertyValue}

/-- Only the limits on rows are ever left out. -/
theorem fits (h : q.Announces q' c old new) (hp : c.property.isLimit = false) :
    old.Fits ∧ new.Fits :=
  ⟨fits_of_value? hp ((stored?_eq_value? hp).symm.trans h.before),
    fits_of_value? hp ((stored?_eq_value? hp).symm.trans h.after)⟩

/-- An event tells the old value from the new one unless neither of them fits. -/
theorem old_ne_new_iff (h : q.Announces q' c old new) : c.old ≠ c.new ↔ old.Fits ∨ new.Fits := by
  rw [h.old_carried, h.new_carried]
  cases hp : c.property.isLimit with
  | false =>
    obtain ⟨hold, hnew⟩ := h.fits hp
    rw [PropertyValue.carried_of_fits hold, PropertyValue.carried_of_fits hnew]
    exact iff_of_true h.differ (.inl hold)
  -- a limit that does not fit is told as no number, and two such ones look the same
  | true =>
    obtain ⟨n, rfl⟩ := exists_of_isLimit hp h.before
    obtain ⟨m, rfl⟩ := exists_of_isLimit hp h.after
    exact PropertyValue.carried_ne_iff fun heq => h.differ (by rw [heq])

end Announces

end Query

namespace Session

open Query

/-- **What a setter is heard to change has changed.** At every query that a history comes to, under
listeners that do not fail, and whatever property is set to whatever value: each event that is
delivered is the change of a property, and

* the old value was stored before, the new one is stored now, and they are not the same;
* the event carries both of them as they are stored, except that it leaves out a number that does
  not fit a signed word of 64 bits;
* none is left out but for the two limits on rows;
* the old and the new value can be told apart by the event if and only if at least one of them
  fits. -/
theorem perform_setter {s : Session} (hbus : s.bus.Quiet) (hq : s.query.Reachable) {e : Edit}
    (he : e.isSetter = true) {q' : Query} (hq' : (s.perform e).session.query = q') :
    ∀ d ∈ (s.perform e).told, ∃ c old new, d.event.change? = some c ∧
      s.query.Announces q' c old new ∧
      (c.property.isLimit = false → old.Fits ∧ new.Fits) ∧
      (c.old ≠ c.new ↔ old.Fits ∨ new.Fits) := by
  intro d hd
  rw [perform_of_quiet hbus] at hd hq'
  obtain rfl := hq'
  obtain ⟨event, hevent, hd⟩ := List.mem_flatMap.mp hd
  obtain ⟨_, -, rfl⟩ := List.mem_map.mp hd
  -- what one announcement says is what all its listeners hear
  obtain ⟨c, old, new, hchange, hannounces⟩ := hq.coherent.announcesAll_change he event hevent
  exact ⟨c, old, new, hchange, hannounces, hannounces.fits, hannounces.old_ne_new_iff⟩

/-- In the sample the limit on rows becomes the greatest number there is, which no event can carry.
The event tells of a change nevertheless, because it carries the limit before. -/
theorem perform_setter_sample :
    sampleQuery.Reachable ∧ ∃ d ∈ (perform ⟨sampleQuery, .log⟩ (.setRowLimit (-1))).told,
      ∃ c, d.event.change? = some c ∧ c.property = .rowLimit ∧ c.old = .integer (some 1000) ∧
        c.new = .integer none ∧ c.old ≠ c.new := by
  obtain ⟨c, old, new, hchange, hannounces, -, htold⟩ :=
    perform_setter (s := ⟨sampleQuery, .log⟩) (e := .setRowLimit (-1)) Bus.log_quiet
      sampleQuery_reachable rfl rfl _ List.mem_cons_self
  obtain rfl := Option.some.inj hchange
  have hold : .integer (some 1000) = old := Option.some.inj hannounces.before
  -- the old limit fits, so it is told as it was; the new one is below zero and is not
  have hfits : old.Fits := by
    rw [← hold]
    decide
  have hseen : _ = old := hannounces.old_carried.trans (PropertyValue.carried_of_fits hfits)
  exact ⟨sampleQuery_reachable, _, List.mem_cons_self, _, rfl, rfl, hseen.trans hold.symm, rfl,
    htold.mpr (.inl hfits)⟩

/-- The sample without a limit that an event could carry. -/
def unlimitedQuery : Query :=
  (run ⟨sampleQuery, .log⟩ [.setRowLimit 0x8000000000000000]).query

theorem unlimitedQuery_reachable : unlimitedQuery.Reachable := by
  refine run_reachable (s := ⟨sampleQuery, .log⟩) Bus.log_quiet sampleQuery_reachable ?_
  intro e he
  obtain rfl := List.mem_singleton.mp he
  trivial

/-- **Of two limits that do not fit neither is seen.** If the limit on rows is 2 ^ 63 and becomes
2 ^ 63 + 1, the event that is delivered carries the same for both. -/
theorem limit_change_unseen :
    unlimitedQuery.Reachable ∧
      ∃ d ∈ (perform ⟨unlimitedQuery, .log⟩ (.setRowLimit 0x8000000000000001)).told,
        ∃ c, d.event.change? = some c ∧ c.property = .rowLimit ∧
          c.old = .integer none ∧ c.new = .integer none ∧
          unlimitedQuery.rowLimit ≠ (perform ⟨unlimitedQuery, .log⟩
            (.setRowLimit 0x8000000000000001)).session.query.rowLimit := by
  exact ⟨unlimitedQuery_reachable, _, List.mem_cons_self, _, rfl, rfl, rfl, rfl, by decide⟩

end Session

end VisualQuery
