import VisualQuery.Proofs.Accounts.Recounts
import VisualQuery.Proofs.Query.Adding

/-!
# What is added is accounted for

An item that is put into a container starts with the values that it was passed with, and so do a
table and its items. The parent that an item gets is no property.
-/

namespace VisualQuery.Query

open Change

variable {e : Edit} {start q : Query}

/-! ### Items -/

theorem Coherent.tells_withItem (h : q.Coherent) {k : Container} (hk : k ∈ q.containers)
    {x : Item} (hx : x.id ∉ q.items.map (·.id)) (index : Nat) (he : e.items = [x]) :
    Tells e start q (.itemAdded k.id x.id) (q.withItem k index x) := by
  have hcoh := h.withItem hk hx index
  have hperm := h.housed.items_insert_perm hk index x
  rw [Query.withItem, enlist_eq] at hcoh ⊢
  have hfree : ∀ t, (∀ i, t ≠ .item i) → ¬ e.adds (.itemAdded k.id x.id) t := by
    intro t ht hadds
    cases t with
    | item i => exact ht i rfl
    | query | container | join => simp [Edit.adds] at hadds
  refine .of_addition rfl rfl rfl fun t p v hv => ?_
  rw [hcoh.value?_iff] at hv
  rw [h.value?_iff]
  cases t with
  | query | join => exact .inr ⟨hfree _ fun _ => by simp, hv⟩
  | container c =>
    obtain ⟨_, hmem, rfl, hv⟩ := hv
    obtain ⟨k', hk', rfl⟩ : ∃ k' ∈ q.containers,
        (if k'.id = k.id then k'.insert index x else k') = _ := List.mem_map.mp hmem
    -- a container that gets an item keeps its properties
    refine .inr ⟨hfree _ fun _ => by simp, k', hk', ?_, ?_⟩
    · split <;> rfl
    · split at hv <;> exact hv
  | item i =>
    obtain ⟨y, hy, rfl, hv⟩ := hv
    -- the item is the new one, or it was there before
    rcases List.mem_cons.mp (hperm.mem_iff.mp hy) with rfl | hy
    · refine .inl ⟨.inl ⟨k.id, rfl⟩, ?_⟩
      have hfind : e.items.find? (·.id = x.id) = some x := by
        rw [he]
        exact List.find?_cons_of_pos (decide_eq_true rfl)
      change (e.items.find? (·.id = x.id)).bind (·.value? p) = some v
      rw [hfind]
      exact hv
    · refine .inr ⟨?_, y, hy, rfl, hv⟩
      rintro (⟨c, hc⟩ | ⟨⟨c, hc⟩, -⟩)
      · rw [(Event.itemAdded.inj hc).2] at hx
        exact hx (List.mem_map_of_mem hy)
      · exact absurd hc (by simp)

theorem Coherent.accounted_insertItem (h : q.Coherent) (c : ContainerId) (index : Nat) {x : Item}
    (he : e.items = [x]) : Accounted e start q (Query.insertItem c index x q) := by
  -- a refused edit tells nothing, so only the accepted one has something to account for
  by_cases hx : x.id ∈ q.items.map (·.id)
  · rw [h.insertItem_of_mem hx]
    exact .of_refused h _
  · cases hc : q.container? c with
    | none =>
      rw [h.insertItem_of_unknown hx hc]
      exact .of_refused h _
    | some k =>
      obtain ⟨hk, rfl⟩ := h.housed.container?_iff.mp hc
      rw [h.insertItem_of_mem_containers hk hx]
      exact .of_announced (h.tells_withItem hk hx index he) (h.withItem hk hx index)

theorem Coherent.accounted_addItem (h : q.Coherent) (c : ContainerId) {x : Item}
    (he : e.items = [x]) : Accounted e start q (Query.addItem c x q) := by
  rw [addItem_apply]
  exact h.accounted_insertItem c _ he

/-! ### Tables -/

/-- A table is put behind the others, with its items. -/
theorem Coherent.tells_withTable (h : q.Coherent) {c : Container} (hkind : c.isConstants = false)
    (hc : c.id ∉ q.containers.map (·.id)) (hitems : ∀ x ∈ c.items, x.id ∉ q.items.map (·.id))
    (hnd : (c.items.map (·.id)).Nodup) :
    Tells (.addTable c) start q (.containerAdded c.id) (q.withTable c) := by
  have hcoh := h.withTable hkind hc hitems hnd
  rw [Query.withTable, foldl_enlist] at hcoh ⊢
  refine .of_addition rfl rfl rfl fun t p v hv => ?_
  rw [hcoh.value?_iff] at hv
  rw [h.value?_iff]
  cases t with
  | query => exact .inr ⟨fun hadds => hadds, hv⟩
  | join => exact .inr ⟨by simp [Edit.adds], hv⟩
  | container i =>
    obtain ⟨k, hk, rfl, hv⟩ := hv
    have hk : k ∈ q.containers ++ [c.adopt] := hk
    -- the container is one of those that were there, or the new table
    rcases List.mem_append.mp hk with hk | hk
    · refine .inr ⟨fun hadds => hc ?_, k, hk, rfl, hv⟩
      rw [Event.containerAdded.inj hadds]
      exact List.mem_map_of_mem hk
    · obtain rfl := List.mem_singleton.mp hk
      refine .inl ⟨rfl, ?_⟩
      change (if c.id = c.id then c.value? p else none) = some v
      rw [if_pos rfl]
      exact hv
  | item i =>
    obtain ⟨y, hy, rfl, hv⟩ := hv
    have hy : y ∈ (q.containers ++ [c.adopt]).flatMap (·.items) := hy
    rw [List.flatMap_append, List.flatMap_singleton] at hy
    -- the item was there, or it comes with the table
    rcases List.mem_append.mp hy with hy | hy
    · refine .inr ⟨?_, y, hy, rfl, hv⟩
      rintro (⟨c', hc'⟩ | ⟨-, hmem⟩)
      · exact absurd hc' (by simp)
      · obtain ⟨x, hx, hid⟩ := List.mem_map.mp hmem
        exact hitems x hx (hid ▸ List.mem_map_of_mem hy)
    · obtain ⟨x, hx, rfl⟩ := List.mem_map.mp hy
      refine .inl ⟨.inr ⟨⟨c.id, rfl⟩, List.mem_map.mpr ⟨x, hx, rfl⟩⟩, ?_⟩
      have hfind : c.items.find? (·.id = x.id) = some x :=
        (Keyed.find?_eq_some_iff hnd).mpr ⟨hx, rfl⟩
      change (c.items.find? (·.id = x.id)).bind (·.value? p) = some v
      rw [hfind]
      exact hv

theorem Coherent.accounted_addTable (h : q.Coherent) (c : Container)
    (hnd : (c.items.map (·.id)).Nodup) :
    Accounted (.addTable c) start q (Query.addTable c q) := by
  -- the checks come one after the other, and only a table that passes all of them is told of
  cases hkind : c.isConstants with
  | true =>
    rw [addTable_of_constants hkind]
    exact .of_refused h _
  | false =>
    by_cases hc : c.id ∈ q.containers.map (·.id)
    · rw [h.addTable_of_mem hkind hc]
      exact .of_refused h _
    · by_cases hitems : ∀ x ∈ c.items, x.id ∉ q.items.map (·.id)
      · rw [h.addTable_of_new hkind hc hitems]
        exact .of_announced (h.tells_withTable hkind hc hitems hnd)
          (h.withTable hkind hc hitems hnd)
      · -- an item that is in the query already keeps the whole table out
        push Not at hitems
        obtain ⟨x, hx, hitem⟩ := hitems
        obtain ⟨y, -, hy⟩ := h.addTable_of_item hkind hc hx hitem
        rw [hy]
        exact .of_refused h _

end VisualQuery.Query
