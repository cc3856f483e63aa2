import VisualQuery.Proofs.Accounts.Recounts
import VisualQuery.Proofs.Query.Items
import VisualQuery.Proofs.Query.Settings

/-!
# Changes in place are accounted for

A setting is written, or a property of a container or of an item. The writes are changes of all
containers (`Query.mapContainers`) or of all items (`Query.mapItems`), from which it is read off
that nothing else changes. That an item is moved in the selection changes no property.
-/

namespace VisualQuery.Query

open Change

variable {e : Edit} {start q : Query}

/-! ### Settings -/

/-- What values are read off, beside the settings. -/
def model (q : Query) :
    QueryId × List Container × List ContainerId × Container × ItemIndex × JoinRegistry :=
  (q.id, q.tables, q.tableIds, q.constants, q.itemIndex, q.joins)

theorem value?_of_model {q q' : Query} (h : q'.model = q.model) {t : Target}
    (ht : ∀ id, t ≠ .query id) (p : Property) : q'.value? t p = q.value? t p := by
  obtain ⟨-, htables, -, hconstants, hindex, hjoins⟩ : q'.id = q.id ∧ q'.tables = q.tables ∧
      q'.tableIds = q.tableIds ∧ q'.constants = q.constants ∧ q'.itemIndex = q.itemIndex ∧
      q'.joins = q.joins := by
    simpa only [model, Prod.mk.injEq] using h
  -- all look-ups start from the tables, the constants or the index
  have hcontainer : q'.container? = q.container? := by
    funext c
    rw [container?, container?, table?, table?, hconstants, htables]
  cases t with
  | query id => exact absurd rfl (ht id)
  | container c => rw [value?, value?, hcontainer]
  | item x => rw [value?, value?, item?, item?, containerOf?, containerOf?, hindex, hcontainer]
  | join j => rw [value?, value?, hjoins]

theorem tells_setting {q q' : Query} (hmodel : q'.model = q.model) {p : Property}
    {old new : PropertyValue} (hold : q.setting? p = some old) (hnew : q'.setting? p = some new)
    (hother : ∀ p', p' ≠ p → q'.setting? p' = q.setting? p') :
    Tells e start q (.queryChanged ⟨q.id, p, old, new⟩) q' := by
  -- the model agrees on everything but the settings
  have hid : q'.id = q.id := congrArg Prod.fst hmodel
  have htableIds : q'.tableIds = q.tableIds := congrArg (·.2.2.1) hmodel
  have hjoins : q'.joins = q.joins := congrArg (·.2.2.2.2.2) hmodel
  refine .of_change rfl htableIds (hjoins ▸ rfl) ?_ (fun v hv => ?_) fun t p' v hne hv => ?_
  · change (if q.id = q.id then q.setting? p else none) = some old
    rw [if_pos rfl, hold]
  · change (if q.id = q'.id then q'.setting? p else none) = some v at hv
    rw [if_pos hid.symm, hnew] at hv
    exact (Option.some.inj hv).symm
  · by_cases ht : ∃ id, t = .query id
    · -- another setting of the query
      obtain ⟨id, rfl⟩ := ht
      change (if id = q'.id then q'.setting? p' else none) = some v at hv
      change (if id = q.id then q.setting? p' else none) = some v
      rw [hid] at hv
      by_cases hidq : id = q.id
      · subst hidq
        rw [if_pos rfl] at hv ⊢
        rw [← hother p' fun hp => hne ⟨rfl, hp⟩]
        exact hv
      · rw [if_neg hidq] at hv
        exact absurd hv (by simp)
    · -- the values of all other targets are read off the model
      rw [← value?_of_model hmodel (fun id heq => ht ⟨id, heq⟩)]
      exact hv

theorem Coherent.accounted_setSetting {β : Type} [DecidableEq β] (h : q.Coherent)
    (property : Property) {read : Query → β} {write : β → Query → Query}
    {show' : β → PropertyValue} {new : β} (hcoh : (write new q).Coherent)
    (hread : ∀ q, q.setting? property = some (show' (read q))) (hnew : read (write new q) = new)
    (hmodel : (write new q).model = q.model)
    (hother : ∀ p, p ≠ property → (write new q).setting? p = q.setting? p) :
    Accounted e start q (Query.setSetting property read write show' new q) := by
  rw [setSetting_apply]
  split
  · exact .of_silent rfl h
  · -- a setting is no part of the account of any other target
    refine .of_announced (tells_setting hmodel (hread q) ?_ hother) hcoh
    rw [hread, hnew]

theorem Coherent.accounted_setGlobalWhere (h : q.Coherent) (text : Option String) :
    Accounted e start q (setGlobalWhere text q) := by
  refine h.accounted_setSetting .globalWhere (h.withGlobalWhere text) (fun _ => rfl) rfl rfl ?_
  intro p hp
  cases p <;> first | rfl | exact absurd rfl hp

theorem Coherent.accounted_setGrouping (h : q.Coherent) (on : Bool) :
    Accounted e start q (setGrouping on q) := by
  refine h.accounted_setSetting .groupingEnabled (h.withGrouping on) (fun _ => rfl) rfl rfl ?_
  intro p hp
  cases p <;> first | rfl | exact absurd rfl hp

theorem Coherent.accounted_setZoom (h : q.Coherent) (zoom : Int32) :
    Accounted e start q (setZoom zoom q) := by
  refine h.accounted_setSetting .zoomLevel (h.withZoom zoom) (fun _ => rfl) rfl rfl ?_
  intro p hp
  cases p <;> first | rfl | exact absurd rfl hp

/-- The text that replaces the statement is set and removed in the same way. -/
theorem Coherent.accounted_setOverride (h : q.Coherent) (text : Option String) :
    Accounted e start q (Query.setSetting .userOverride (fun q : Query => q.userOverride)
      (fun userOverride q => { q with userOverride }) .text text q) := by
  refine h.accounted_setSetting .userOverride (h.withUserOverride text) (fun _ => rfl) rfl rfl ?_
  intro p hp
  cases p <;> first | rfl | exact absurd rfl hp

theorem Coherent.accounted_defineOverride (h : q.Coherent) (text : String) :
    Accounted e start q (Query.defineOverride text q) := by
  rw [Query.defineOverride, get_bind]
  split
  · exact h.accounted_setOverride none
  · exact h.accounted_setOverride (some text)

/-! ### Containers -/

/-- A container is changed in place, beside its items. -/
theorem Coherent.tells_modifyContainer (h : q.Coherent) {k : Container} (hk : k ∈ q.containers)
    {f : Container → Container}
    (hf : ∀ k, (f k).id = k.id ∧ (f k).items = k.items ∧ (f k).kind = k.kind) {p : Property}
    {old new : PropertyValue} (hold : k.value? p = some old) (hnew : (f k).value? p = some new)
    (hother : ∀ p', p' ≠ p → (f k).value? p' = k.value? p') :
    Tells e start q (.containerChanged ⟨k.id, p, old, new⟩) (q.modifyContainer k.id f) := by
  have hcoh := h.modifyContainer k.id hf
  -- the write as a map over all containers, which is what the look-ups see
  let g : Container → Container := fun k' => if k'.id = k.id then f k' else k'
  have hg : ∀ k', (g k').id = k'.id ∧ (g k').items = k'.items := by
    intro k'
    change (if k'.id = k.id then f k' else k').id = _ ∧
      (if k'.id = k.id then f k' else k').items = _
    split
    · exact ⟨(hf k').1, (hf k').2.1⟩
    · exact ⟨rfl, rfl⟩
  -- no other container has the identity, so the map is the write on this one
  have hself : ∀ k' ∈ q.containers, k'.id = k.id → g k' = f k := by
    intro k' hk' hid
    rw [← h.housed.eq_of_id hk' hk hid]
    exact if_pos (hid ▸ rfl)
  have hcontainers : ∀ k' ∈ (q.mapContainers g).containers, ∃ k₀ ∈ q.containers, g k₀ = k' := by
    intro k' hk'
    rw [containers_mapContainers] at hk'
    exact List.mem_map.mp hk'
  rw [h.housed.modifyContainer_eq] at hcoh ⊢
  change (q.mapContainers g).Coherent at hcoh
  change Tells e start q _ (q.mapContainers g)
  -- the value before, the value after, and all other values
  refine .of_change rfl rfl rfl ?_ (fun v hv => ?_) fun t p' v hne hv => ?_
  · exact h.value?_iff.mpr ⟨k, hk, rfl, hold⟩
  · obtain ⟨_, hmem, hid, hv⟩ := hcoh.value?_iff.mp hv
    obtain ⟨k', hk', rfl⟩ := hcontainers _ hmem
    rw [hself k' hk' ((hg k').1.symm.trans hid), hnew] at hv
    exact (Option.some.inj hv).symm
  · rw [hcoh.value?_iff] at hv
    rw [h.value?_iff]
    cases t with
    | query | join => exact hv
    | container c =>
      obtain ⟨_, hmem, rfl, hv⟩ := hv
      obtain ⟨k', hk', rfl⟩ := hcontainers _ hmem
      refine ⟨k', hk', (hg k').1.symm, ?_⟩
      by_cases hid : k'.id = k.id
      · -- another property of the container that changes
        rw [hself k' hk' hid, hother p' fun hp => hne ⟨?_, hp⟩] at hv
        · rw [h.housed.eq_of_id hk' hk hid]
          exact hv
        · exact congrArg Target.container ((hg k').1.trans hid)
      · rw [show g k' = k' from if_neg hid] at hv
        exact hv
    -- its items are the same, so theirs are those of before
    | item x =>
      obtain ⟨y, hy, hid, hv⟩ := hv
      obtain ⟨_, hmem, hy⟩ := mem_items.mp hy
      obtain ⟨k', hk', rfl⟩ := hcontainers _ hmem
      exact ⟨y, mem_items.mpr ⟨k', hk', (hg k').2 ▸ hy⟩, hid, hv⟩

/-- A property of a container is set, and no other one changes. -/
theorem Coherent.accounted_setContainerProperty {β : Type} (h : q.Coherent) (id : ContainerId)
    {p : Property} {read : Container → β} {same : β → β → Bool} {write : β → Container → Container}
    {show' : β → PropertyValue} {new : β}
    (hwrite : ∀ k, (write new k).id = k.id ∧ (write new k).items = k.items ∧
      (write new k).kind = k.kind)
    (hread : ∀ k, k.value? p = some (show' (read k)))
    (hnew : ∀ k, (write new k).value? p = some (show' new))
    (hother : ∀ k p', p' ≠ p → (write new k).value? p' = k.value? p') :
    Accounted e start q (Query.setContainerProperty id p read same write show' new q) := by
  cases hk : q.container? id with
  | none =>
    rw [setContainerProperty_of_none _ _ _ _ _ _ hk]
    exact .of_refused h _
  | some k =>
    rw [setContainerProperty_of_some _ _ _ _ _ _ hk]
    -- what is the same is not written again, and nobody is told
    split
    · exact .of_silent rfl h
    · obtain ⟨hkq, rfl⟩ := h.housed.container?_iff.mp hk
      exact .of_announced (h.tells_modifyContainer hkq hwrite (hread k) (hnew k) (hother k))
        (h.modifyContainer k.id hwrite)

/-! ### Items -/

/-- An item is changed in place, and the lists may follow. -/
theorem Coherent.tells_mapItem (h : q.Coherent) {x : Item} (hx : x ∈ q.items) {f : Item → Item}
    (hid : ∀ x, (f x).id = x.id) {selection sortList : List ItemId}
    (hcoh : { q.mapItems (Container.onItem x.id f) with selection, sortList }.Coherent)
    {p : Property} {old new : PropertyValue} (hold : x.value? p = some old)
    (hnew : (f x).value? p = some new) (hother : ∀ p', p' ≠ p → (f x).value? p' = x.value? p') :
    Tells e start q (.itemChanged ⟨x.id, p, old, new⟩)
      { q.mapItems (Container.onItem x.id f) with selection, sortList } := by
  have honId : ∀ y, (Container.onItem x.id f y).id = y.id := by
    intro y
    rw [Container.onItem]
    split
    · exact hid y
    · rfl
  have hself : ∀ y ∈ q.items, y.id = x.id → Container.onItem x.id f y = f x := by
    intro y hy hyx
    rw [h.housed.eq_of_itemId hy hx hyx, Container.onItem_self]
  -- every item comes from one that was there
  have hitems : ∀ y' ∈ (q.mapItems (Container.onItem x.id f)).items,
      ∃ y ∈ q.items, Container.onItem x.id f y = y' := by
    intro y' hy'
    rw [items_mapItems] at hy'
    exact List.mem_map.mp hy'
  refine .of_change rfl rfl rfl ?_ (fun v hv => ?_) fun t p' v hne hv => ?_
  · exact h.value?_iff.mpr ⟨x, hx, rfl, hold⟩
  · obtain ⟨_, hmem, hyx, hv⟩ := hcoh.value?_iff.mp hv
    obtain ⟨y, hy, rfl⟩ := hitems _ hmem
    rw [hself y hy ((honId y).symm.trans hyx), hnew] at hv
    exact (Option.some.inj hv).symm
  · rw [hcoh.value?_iff] at hv
    rw [h.value?_iff]
    cases t with
    | query | join => exact hv
    | container c =>
      obtain ⟨_, hmem, rfl, hv⟩ := hv
      obtain ⟨k, hk, rfl⟩ : ∃ k ∈ q.containers, k.mapItems (Container.onItem x.id f) = _ :=
        List.mem_map.mp hmem
      exact ⟨k, hk, rfl, hv⟩
    | item i =>
      obtain ⟨_, hmem, rfl, hv⟩ := hv
      obtain ⟨y, hy, rfl⟩ := hitems _ hmem
      refine ⟨y, hy, (honId y).symm, ?_⟩
      by_cases hyx : y.id = x.id
      · -- another property of the item that changes
        rw [hself y hy hyx, hother p' fun hp => hne ⟨?_, hp⟩] at hv
        · rw [h.housed.eq_of_itemId hy hx hyx]
          exact hv
        · exact congrArg Target.item ((honId y).trans hyx)
      · rw [Container.onItem_of_ne hyx] at hv
        exact hv

theorem Coherent.accounted_setItemProperty {β : Type} [DecidableEq β] (h : q.Coherent)
    (id : ItemId) (property : Property) {read : Item → β} {write : β → Item → Item}
    {show' : β → PropertyValue} {new : β}
    (hwrite : ∀ x, (write new x).id = x.id ∧ (write new x).parent = x.parent ∧
      (write new x).selected = x.selected ∧ (write new x).isSorted = x.isSorted)
    (hread : ∀ x, x.value? property = some (show' (read x)))
    (hnew : ∀ x, read (write new x) = new)
    (hother : ∀ x p, p ≠ property → (write new x).value? p = x.value? p) :
    Accounted e start q (Query.setItemProperty id property read write show' new q) := by
  -- an item that is not known is refused, and the same value is passed over in silence
  by_cases hid : id ∈ q.items.map (·.id)
  · obtain ⟨x, hx, rfl⟩ := List.mem_map.mp hid
    rw [h.setItemProperty_of_mem hx]
    split
    · exact .of_silent rfl h
    · have hcoh := h.writeItem x.id hwrite
      refine .of_announced ?_ hcoh
      refine h.tells_mapItem hx (fun y => (hwrite y).1) hcoh (hread x) ?_ (hother x)
      rw [hread, hnew]
  · rw [h.setItemProperty_of_notMem hid]
    exact .of_refused h _

theorem Coherent.accounted_renameItem (h : q.Coherent) (id : ItemId) (name : String) :
    Accounted e start q (Query.renameItem id name q) := by
  rw [Query.renameItem]
  split
  · rw [bind_of_refused (refuse_apply _ q)]
    exact .of_refused h _
  · refine h.accounted_setItemProperty id .name (fun _ => ⟨rfl, rfl, rfl, rfl⟩) (fun _ => rfl)
      (fun _ => rfl) fun x p hp => ?_
    cases p <;> first | rfl | exact absurd rfl hp

theorem Coherent.accounted_setItemSelected (h : q.Coherent) (id : ItemId) (on : Bool) :
    Accounted e start q (Query.setItemSelected id on q) := by
  by_cases hid : id ∈ q.items.map (·.id)
  · obtain ⟨x, hx, rfl⟩ := List.mem_map.mp hid
    rw [h.setItemSelected_of_mem hx]
    split
    · exact .of_silent rfl h
    · next hne =>
      -- the lists change along with the flag, but no value that is told is read off them
      have hcoh := h.withSelected hx on
      refine .of_announced ?_ hcoh
      refine h.tells_mapItem (f := fun y => { y with selected := on }) hx (fun _ => rfl) hcoh ?_ rfl
        fun p hp => ?_
      · -- the old value that is told is the negation of the new one: what the flag was, as it moved
        rw [Item.value?, Bool.eq_not_of_ne hne]
      · cases p <;> first | rfl | exact absurd rfl hp
  · rw [h.setItemSelected_of_notMem hid]
    exact .of_refused h _

theorem Coherent.accounted_setSortOrder (h : q.Coherent) (id : ItemId) (order : SortOrder) :
    Accounted e start q (Query.setSortOrder id order q) := by
  by_cases hid : id ∈ q.items.map (·.id)
  · obtain ⟨x, hx, rfl⟩ := List.mem_map.mp hid
    rw [h.setSortOrder_of_mem hx]
    split
    · exact .of_silent rfl h
    · have hcoh := h.withSortOrder hx order
      refine .of_announced ?_ hcoh
      -- the sort list follows, but it is no value of the item
      refine h.tells_mapItem (f := fun y => { y with sortOrder := order }) hx (fun _ => rfl) hcoh
        rfl rfl fun p hp => ?_
      cases p <;> first | rfl | exact absurd rfl hp
  · rw [h.setSortOrder_of_notMem hid]
    exact .of_refused h _

theorem Coherent.accounted_moveSelectedItem (h : q.Coherent) (id : ItemId) (index : Nat) :
    Accounted e start q (Query.moveSelectedItem id index q) := by
  have hcoh := h.moveSelectedItem id index
  by_cases hid : id ∈ q.selection
  · -- the place of an item in the selection is no property
    rw [moveSelectedItem_of_mem hid] at hcoh ⊢
    refine ⟨.single (.of_same (.inr rfl) rfl) rfl, fun a ha => ?_, hcoh⟩
    rw [List.mem_singleton.mp ha]
    exact hcoh
  · rw [moveSelectedItem_of_notMem hid]
    exact .of_refused h _

end VisualQuery.Query
