import Mathlib.Data.List.Perm.Basic
import VisualQuery.Proofs.Containers

/-!
# Lists of flagged items

The selection and the sort list of a query name items by their identities. Each of them is a
listing: without repetitions it names exactly the items that have a certain flag (`Listing`). A
query keeps its lists up to date by hand, whenever a flag or the items change; this module says for
each of the ways in which that happens that a listing stays one. The two lists are then both cases
of it.

A flag of one item is written together with the list by `relist`, which takes the item off the list
and puts it at the end if it has the flag now.
-/

namespace VisualQuery

/-- **The listing of flagged items.** The list names the items with the flag, each once. -/
structure Listing (items : List Item) (flag : Item → Bool) (ids : List ItemId) : Prop where
  /-- No item is named twice. -/
  nodup : ids.Nodup
  /-- An identity is on the list if an item with the flag has it. -/
  mem_iff : ∀ id, id ∈ ids ↔ ∃ x ∈ items, x.id = id ∧ flag x = true

/-- The list of identities with one of them taken off, and put at the end if `on` is set. -/
def relist (id : ItemId) (on : Bool) (ids : List ItemId) : List ItemId :=
  if on then ids.filter (· ≠ id) ++ [id] else ids.filter (· ≠ id)

theorem mem_relist {id y : ItemId} {on : Bool} {ids : List ItemId} :
    y ∈ relist id on ids ↔ (y ∈ ids ∧ y ≠ id) ∨ (y = id ∧ on = true) := by
  cases on <;> simp [relist]

theorem nodup_relist {id : ItemId} {on : Bool} {ids : List ItemId} (h : ids.Nodup) :
    (relist id on ids).Nodup := by
  have hrest : (ids.filter (· ≠ id)).Nodup := h.filter _
  cases on with
  | false => exact hrest
  | true =>
    -- the member was taken off before it is put at the end
    refine List.nodup_append.mpr ⟨hrest, List.nodup_singleton _, ?_⟩
    rintro a ha b hb rfl
    rw [List.mem_singleton] at hb
    exact absurd hb (by simpa using (List.mem_filter.mp ha).2)

/-- An item that is not on the list is not taken off. -/
theorem relist_of_notMem {id : ItemId} {ids : List ItemId} (h : id ∉ ids) (on : Bool) :
    relist id on ids = if on then ids ++ [id] else ids := by
  have hrest : ids.filter (· ≠ id) = ids := by
    rw [List.filter_eq_self]
    intro y hy
    rw [decide_eq_true_iff]
    exact fun hyid => h (hyid ▸ hy)
  rw [relist, hrest]

namespace Listing

variable {items items' : List Item} {flag : Item → Bool} {ids ids' : List ItemId}

/-- If no item has the flag, nothing is listed. -/
theorem of_none (h : ∀ x ∈ items, flag x = false) : Listing items flag [] := by
  refine ⟨List.nodup_nil, fun id => ⟨fun hid => absurd hid List.not_mem_nil, ?_⟩⟩
  rintro ⟨x, hx, -, hflag⟩
  rw [h x hx] at hflag
  exact absurd hflag Bool.false_ne_true

/-- If there are no items, nothing is listed. -/
theorem eq_nil (h : Listing [] flag ids) : ids = [] := by
  refine List.eq_nil_iff_forall_not_mem.mpr fun id hid => ?_
  obtain ⟨x, hx, -⟩ := (h.mem_iff id).mp hid
  exact List.not_mem_nil hx

/-- Whether an item is listed, is a question of its flag. -/
theorem mem_iff_flag (h : Listing items flag ids) (hnd : (items.map (·.id)).Nodup) {x : Item}
    (hx : x ∈ items) : x.id ∈ ids ↔ flag x = true := by
  rw [h.mem_iff]
  constructor
  · rintro ⟨y, hy, hid, hflag⟩
    rwa [← List.inj_on_of_nodup_map hnd hy hx hid]
  · exact fun hflag => ⟨x, hx, rfl, hflag⟩

theorem mem_ids (h : Listing items flag ids) {id : ItemId} (hid : id ∈ ids) :
    id ∈ items.map (·.id) := by
  obtain ⟨x, hx, rfl, -⟩ := (h.mem_iff id).mp hid
  exact List.mem_map_of_mem hx

/-- The list is the flagged items in some order. -/
theorem perm_ids (h : Listing items flag ids) (hnd : (items.map (·.id)).Nodup) :
    ids.Perm ((items.filter flag).map (·.id)) := by
  rw [List.perm_ext_iff_of_nodup h.nodup (hnd.sublist (List.filter_sublist.map _))]
  intro id
  rw [h.mem_iff]
  simp only [List.mem_map, List.mem_filter]
  constructor
  · rintro ⟨x, hx, rfl, hflag⟩
    exact ⟨x, ⟨hx, hflag⟩, rfl⟩
  · rintro ⟨x, ⟨hx, hflag⟩, rfl⟩
    exact ⟨x, hx, rfl, hflag⟩

/-- The order of the list does not matter. -/
theorem perm (h : Listing items flag ids) (hperm : ids.Perm ids') : Listing items flag ids' :=
  ⟨hperm.nodup_iff.mp h.nodup, fun id => by rw [← hperm.mem_iff, h.mem_iff]⟩

/-- Neither does the order of the items. -/
theorem perm_items (h : Listing items flag ids) (hperm : items.Perm items') :
    Listing items' flag ids :=
  ⟨h.nodup, fun id => by simp only [h.mem_iff, hperm.mem_iff]⟩

/-- Changing items keeps the listing, if identities and flags stay. -/
theorem map (h : Listing items flag ids) {g : Item → Item} (hid : ∀ x ∈ items, (g x).id = x.id)
    (hflag : ∀ x ∈ items, flag (g x) = flag x) : Listing (items.map g) flag ids := by
  refine ⟨h.nodup, fun id => ?_⟩
  rw [h.mem_iff]
  constructor
  · rintro ⟨x, hx, rfl, hx'⟩
    exact ⟨g x, List.mem_map_of_mem hx, hid x hx, (hflag x hx).trans hx'⟩
  · rintro ⟨y, hy, rfl, hy'⟩
    obtain ⟨x, hx, rfl⟩ := List.mem_map.mp hy
    exact ⟨x, hx, (hid x hx).symm, (hflag x hx).symm.trans hy'⟩

/-- Changing one item keeps the listing, if the item is listed anew. -/
theorem write (h : Listing items flag ids) (hnd : (items.map (·.id)).Nodup) {x : Item}
    (hx : x ∈ items) {f : Item → Item} (hid : (f x).id = x.id) :
    Listing (items.map (Container.onItem x.id f)) flag (relist x.id (flag (f x)) ids) := by
  refine ⟨nodup_relist h.nodup, fun id => ?_⟩
  rw [mem_relist, h.mem_iff]
  constructor
  · rintro (⟨⟨y, hy, rfl, hflag⟩, hne⟩ | ⟨rfl, hflag⟩)
    -- another item stays as it is, and the one that is written to is listed by its new flag
    · refine ⟨y, List.mem_map.mpr ⟨y, hy, Container.onItem_of_ne hne⟩, rfl, hflag⟩
    · exact ⟨f x, List.mem_map.mpr ⟨x, hx, Container.onItem_self f x⟩, hid, hflag⟩
  · rintro ⟨z, hz, rfl, hflag⟩
    obtain ⟨y, hy, rfl⟩ := List.mem_map.mp hz
    by_cases hyx : y.id = x.id
    · -- the item that is written to
      obtain rfl := List.inj_on_of_nodup_map hnd hy hx hyx
      rw [Container.onItem_self] at hflag ⊢
      exact Or.inr ⟨hid, hflag⟩
    · rw [Container.onItem_of_ne hyx] at hflag ⊢
      exact Or.inl ⟨⟨y, hy, rfl, hflag⟩, hyx⟩

/-- New items with the flag are listed behind the others. -/
theorem append (h : Listing items flag ids) {new : List Item}
    (hnd : (new.map (·.id)).Nodup) (hnew : ∀ x ∈ new, x.id ∉ items.map (·.id)) :
    Listing (items ++ new) flag (ids ++ (new.filter flag).map (·.id)) := by
  refine ⟨List.nodup_append.mpr ⟨h.nodup, hnd.sublist (List.filter_sublist.map _), ?_⟩,
    fun id => ?_⟩
  · -- what was listed is an old item
    rintro a ha b hb rfl
    obtain ⟨x, hx, rfl⟩ := List.mem_map.mp hb
    exact hnew x (List.mem_of_mem_filter hx) (h.mem_ids ha)
  · rw [List.mem_append, h.mem_iff]
    simp only [List.mem_append, List.mem_map, List.mem_filter]
    constructor
    · rintro (⟨x, hx, rfl, hflag⟩ | ⟨x, ⟨hx, hflag⟩, rfl⟩)
      · exact ⟨x, Or.inl hx, rfl, hflag⟩
      · exact ⟨x, Or.inr hx, rfl, hflag⟩
    · rintro ⟨x, hx | hx, rfl, hflag⟩
      · exact Or.inl ⟨x, hx, rfl, hflag⟩
      · exact Or.inr ⟨x, ⟨hx, hflag⟩, rfl⟩

/-- A new item with the flag is listed behind the others, wherever it was put among the items. -/
theorem insert (h : Listing items flag ids) {x : Item} (hx : x.id ∉ items.map (·.id))
    (hitems : items'.Perm (x :: items)) :
    Listing items' flag (ids ++ if flag x = true then [x.id] else []) := by
  have hnew : ([x].filter flag).map (·.id) = if flag x = true then [x.id] else [] := by
    cases hflag : flag x <;> simp [hflag]
  have happend : Listing (items ++ [x]) flag (ids ++ ([x].filter flag).map (·.id)) := by
    refine h.append (List.nodup_singleton _) fun y hy => ?_
    rwa [List.mem_singleton.mp hy]
  rw [hnew] at happend
  exact happend.perm_items ((List.perm_append_singleton x items).trans hitems.symm)

/-- Items can be taken away together with their identities. -/
theorem restrict (h : Listing items flag ids) (r : ItemId → Bool)
    (hitems : ∀ x, x ∈ items' ↔ x ∈ items ∧ r x.id = true) :
    Listing items' flag (ids.filter r) := by
  refine ⟨h.nodup.filter _, fun id => ?_⟩
  rw [List.mem_filter, h.mem_iff]
  constructor
  · rintro ⟨⟨x, hx, rfl, hflag⟩, hr⟩
    exact ⟨x, (hitems x).mpr ⟨hx, hr⟩, rfl, hflag⟩
  · rintro ⟨x, hx, rfl, hflag⟩
    obtain ⟨hx, hr⟩ := (hitems x).mp hx
    exact ⟨⟨x, hx, rfl, hflag⟩, hr⟩

/-- Items that lose the flag are taken off the list. -/
theorem clear (h : Listing items flag ids) (r : ItemId → Bool) {g : Item → Item}
    (hid : ∀ x, (g x).id = x.id) (hg : ∀ x, flag (g x) = (flag x && !r x.id)) :
    Listing (items.map g) flag (ids.filter (!r ·)) := by
  refine ⟨h.nodup.filter _, fun id => ?_⟩
  -- what is cleared loses its flag and its place in the list at once
  rw [List.mem_filter, h.mem_iff]
  constructor
  · rintro ⟨⟨x, hx, rfl, hflag⟩, hr⟩
    exact ⟨g x, List.mem_map_of_mem hx, hid x, by rw [hg, hflag, hr, Bool.and_self]⟩
  · rintro ⟨y, hy, rfl, hflag⟩
    obtain ⟨x, hx, rfl⟩ := List.mem_map.mp hy
    rw [hg, Bool.and_eq_true] at hflag
    exact ⟨⟨x, hx, (hid x).symm, hflag.1⟩, (hid x).symm ▸ hflag.2⟩

/-- Each item is counted as often as its flag says. -/
theorem count_eq (h : Listing items flag ids) (hnd : (items.map (·.id)).Nodup) {x : Item}
    (hx : x ∈ items) : ids.count x.id = if flag x = true then 1 else 0 := by
  by_cases hflag : flag x = true
  · rw [if_pos hflag, List.count_eq_one_of_mem h.nodup ((h.mem_iff_flag hnd hx).mpr hflag)]
  · rw [if_neg hflag, List.count_eq_zero.mpr fun hmem => hflag ((h.mem_iff_flag hnd hx).mp hmem)]

theorem length_eq (h : Listing items flag ids) (hnd : (items.map (·.id)).Nodup) :
    ids.length = items.countP flag := by
  rw [(h.perm_ids hnd).length_eq, List.length_map, List.countP_eq_length_filter]

end Listing

end VisualQuery
