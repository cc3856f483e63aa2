import VisualQuery.Proofs.Keyed
import VisualQuery.Query.Items

/-!
# Containers and the index

The functions of a container change its first item with an identity, take it out or put one in. If
no identity occurs twice, a change of the first item is a change of all items by a condition on the
identity (`Container.modify_eq`), and an item is taken out by keeping the items with other
identities (`Container.remove?_eq`). Proofs use these forms, since they say at once that everything
else stays.

The index is a list of entries of which only the look-up matters: `ItemIndex.get?_set`,
`ItemIndex.get?_erase` and `ItemIndex.get?_enter` say what a look-up finds behind each of its
changes.
-/

namespace VisualQuery

namespace Container

/-- The container with each of its items changed. -/
def mapItems (g : Item → Item) (c : Container) : Container := { c with items := c.items.map g }

/-- The container with some of its items only. -/
def filterItems (p : Item → Bool) (c : Container) : Container :=
  { c with items := c.items.filter p }

theorem contains_iff {c : Container} {x : ItemId} :
    c.contains x = true ↔ x ∈ c.items.map (·.id) := by
  simp [contains, List.any_eq_true]

/-- Containers keep their identities under a change that keeps that of each. -/
theorem map_ids {f : Container → Container} (hf : ∀ k, (f k).id = k.id) (ks : List Container) :
    (ks.map f).map (·.id) = ks.map (·.id) :=
  List.map_map.trans (List.map_congr_left fun k _ => hf k)

theorem mapItems_eq_self {g : Item → Item} {c : Container} (h : ∀ x ∈ c.items, g x = x) :
    c.mapItems g = c := by
  have hitems : c.items.map g = c.items := (List.map_congr_left h).trans (List.map_id c.items)
  rw [mapItems, hitems]

theorem filterItems_eq_self {p : Item → Bool} {c : Container} (h : ∀ x ∈ c.items, p x = true) :
    c.filterItems p = c := by
  rw [filterItems, List.filter_eq_self.mpr h]

/-- The change of one item, as a change of all items. -/
def onItem (id : ItemId) (f : Item → Item) (x : Item) : Item := if x.id = id then f x else x

theorem onItem_self (f : Item → Item) (x : Item) : onItem x.id f x = f x := if_pos rfl

theorem onItem_of_ne {id : ItemId} {f : Item → Item} {x : Item} (h : x.id ≠ id) :
    onItem id f x = x := if_neg h

theorem modifyFirst_eq {id : ItemId} {f : Item → Item} {items : List Item}
    (h : (items.map (·.id)).Nodup) : modify.modifyFirst id f items = items.map (onItem id f) := by
  induction items with
  | nil => rfl
  | cons x rest ih =>
    rw [List.map_cons, List.nodup_cons] at h
    rw [modify.modifyFirst, List.map_cons]
    by_cases hx : x.id = id
    · -- the item is the first one, and no other one has its identity
      subst hx
      have hother : ∀ y ∈ rest, onItem x.id f y = y := fun y hy =>
        onItem_of_ne fun hyx => h.1 (hyx ▸ List.mem_map_of_mem hy)
      have hrest : rest.map (onItem x.id f) = rest :=
        (List.map_congr_left hother).trans (List.map_id rest)
      rw [if_pos rfl, onItem_self, hrest]
    · rw [if_neg hx, onItem_of_ne hx, ih h.2]

theorem modify_eq {c : Container} (h : (c.items.map (·.id)).Nodup) (id : ItemId)
    (f : Item → Item) : c.modify id f = c.mapItems (onItem id f) := by
  rw [modify, modifyFirst_eq h, mapItems]

theorem eraseIdx_findIdx {items : List Item} (h : (items.map (·.id)).Nodup) {x : Item}
    (hx : x ∈ items) :
    ∃ i, items.findIdx? (·.id = x.id) = some i ∧ items[i]? = some x ∧
      items.eraseIdx i = items.filter (·.id ≠ x.id) := by
  induction items with
  | nil => exact absurd hx List.not_mem_nil
  | cons y rest ih =>
    rw [List.map_cons, List.nodup_cons] at h
    by_cases hyx : y.id = x.id
    · -- the item is the first one, and filtering takes out no other one
      have hrest : ∀ z ∈ rest, z.id ≠ x.id := fun z hz hzx =>
        h.1 (hyx.trans hzx.symm ▸ List.mem_map_of_mem hz)
      have hxy : x = y := by
        rcases List.mem_cons.mp hx with rfl | hx
        · rfl
        · exact absurd rfl (hrest x hx)
      refine ⟨0, ?_, ?_, ?_⟩
      · rw [List.findIdx?_cons, decide_eq_true hyx, if_pos rfl]
      · rw [hxy, List.getElem?_cons_zero]
      · rw [List.eraseIdx_cons_zero, List.filter_cons, decide_eq_false (not_not.mpr hyx),
          if_neg Bool.false_ne_true,
          List.filter_eq_self.mpr fun z hz => decide_eq_true (hrest z hz)]
    · have hxr : x ∈ rest := (List.mem_cons.mp hx).resolve_left fun hxy => hyx (hxy ▸ rfl)
      obtain ⟨i, hi, hget, herase⟩ := ih h.2 hxr
      refine ⟨i + 1, ?_, ?_, ?_⟩
      · rw [List.findIdx?_cons, decide_eq_false hyx, if_neg Bool.false_ne_true, hi]
        rfl
      · rw [List.getElem?_cons_succ, hget]
      · rw [List.eraseIdx_cons_succ, List.filter_cons, decide_eq_true hyx, if_pos rfl, herase]

/-- Taking an item out leaves the other ones. -/
theorem remove?_eq {c : Container} (h : (c.items.map (·.id)).Nodup) {x : Item}
    (hx : x ∈ c.items) :
    c.remove? x.id = some ({ x with parent := none }, c.filterItems (·.id ≠ x.id)) := by
  obtain ⟨i, hi, hget, herase⟩ := eraseIdx_findIdx h hx
  rw [remove?, indexOf?, hi, Option.bind_some, removeAt?, hget, Option.map_some, herase,
    filterItems]

/-- Putting an item in adds one item, wherever it is put. -/
theorem insert_perm (c : Container) (index : Nat) (x : Item) :
    (c.insert index x).items.Perm ({ x with parent := some c.id } :: c.items) :=
  List.perm_insertIdx _ _ (Nat.min_le_right _ _)

end Container

namespace ItemIndex

variable {index : ItemIndex} {x y : ItemId} {c : ContainerId}

/-! ### The index -/

theorem get?_set (index : ItemIndex) (x : ItemId) (c : ContainerId) (y : ItemId) :
    (index.set x c).get? y = if y = x then some c else index.get? y := by
  induction index with
  | nil =>
    rw [set, get?]
    by_cases hyx : y = x
    · rw [hyx, if_pos rfl, List.lookup_cons_self]
    · rw [if_neg hyx, Keyed.lookup_cons_of_ne hyx]
      rfl
  | cons entry rest ih =>
    obtain ⟨z, d⟩ := entry
    rw [set]
    by_cases hzx : z = x
    · -- the entry of the item is replaced where it stands
      subst hzx
      rw [if_pos rfl, get?, get?]
      by_cases hyz : y = z
      · rw [hyz, if_pos rfl, List.lookup_cons_self]
      · rw [if_neg hyz, Keyed.lookup_cons_of_ne hyz, Keyed.lookup_cons_of_ne hyz]
    · rw [if_neg hzx, get?, get?]
      by_cases hyz : y = z
      · subst hyz
        rw [List.lookup_cons_self, List.lookup_cons_self, if_neg hzx]
      · rw [Keyed.lookup_cons_of_ne hyz, Keyed.lookup_cons_of_ne hyz]
        exact ih

theorem mem_keys_set : y ∈ (index.set x c).map Prod.fst ↔ y = x ∨ y ∈ index.map Prod.fst := by
  rw [← not_iff_not, ← Keyed.lookup_eq_none_iff, not_or, ← Keyed.lookup_eq_none_iff]
  have hget := get?_set index x c y
  rw [get?, get?] at hget
  rw [hget]
  by_cases hyx : y = x
  · simp [hyx]
  · simp [hyx]

theorem nodup_keys_set (h : (index.map Prod.fst).Nodup) :
    ((index.set x c).map Prod.fst).Nodup := by
  induction index with
  | nil => exact List.nodup_singleton _
  | cons entry rest ih =>
    obtain ⟨z, d⟩ := entry
    rw [List.map_cons, List.nodup_cons] at h
    rw [set]
    -- an entry is replaced in its place, or a new one is put at the end
    split
    · next hzx => exact List.nodup_cons.mpr ⟨hzx ▸ h.1, h.2⟩
    · next hzx =>
      refine List.nodup_cons.mpr ⟨?_, ih h.2⟩
      rw [mem_keys_set]
      rintro (heq | hmem)
      · exact hzx heq
      · exact h.1 hmem

theorem get?_erase (index : ItemIndex) (x y : ItemId) :
    (index.erase x).get? y = if y = x then none else index.get? y := by
  induction index with
  | nil =>
    rw [erase, get?, get?]
    simp
  | cons entry rest ih =>
    obtain ⟨z, d⟩ := entry
    rw [erase, get?] at ih
    rw [erase, get?, List.filter_cons]
    by_cases hzx : z = x
    · -- the entry is taken out, and so are those behind it
      subst hzx
      rw [if_neg (by simp), ih, get?, get?]
      by_cases hyz : y = z
      · rw [if_pos hyz, if_pos hyz]
      · rw [if_neg hyz, if_neg hyz, Keyed.lookup_cons_of_ne hyz]
    · rw [if_pos (by simpa using hzx), get?]
      by_cases hyz : y = z
      · subst hyz
        rw [List.lookup_cons_self, List.lookup_cons_self, if_neg hzx]
      · rw [Keyed.lookup_cons_of_ne hyz, Keyed.lookup_cons_of_ne hyz, ih, get?]

theorem nodup_keys_erase (h : (index.map Prod.fst).Nodup) :
    ((index.erase x).map Prod.fst).Nodup :=
  h.sublist (List.filter_sublist.map _)

/-- A step that sets the entry of one item, taken for a list of items. -/
theorem get?_foldl {step : ItemIndex → Item → ItemIndex} {v : Option ContainerId}
    (hstep : ∀ index x y, (step index x).get? y = if y = x.id then v else index.get? y)
    (items : List Item) (index : ItemIndex) (y : ItemId) :
    (items.foldl step index).get? y = if y ∈ items.map (·.id) then v else index.get? y := by
  induction items generalizing index with
  | nil => rfl
  | cons x rest ih =>
    rw [List.foldl_cons, ih, hstep, List.map_cons]
    -- steps for other items leave the entry alone, so the last step for the item counts
    by_cases hrest : y ∈ rest.map (·.id)
    · rw [if_pos hrest, if_pos (List.mem_cons_of_mem _ hrest)]
    · rw [if_neg hrest]
      by_cases hyx : y = x.id
      · rw [if_pos hyx, if_pos (hyx ▸ List.mem_cons_self)]
      · rw [if_neg hyx, if_neg]
        rw [List.mem_cons, not_or]
        exact ⟨hyx, hrest⟩

theorem nodup_keys_foldl {step : ItemIndex → Item → ItemIndex}
    (hstep : ∀ index x, (index.map Prod.fst).Nodup → ((step index x).map Prod.fst).Nodup)
    (h : (index.map Prod.fst).Nodup) (items : List Item) :
    ((items.foldl step index).map Prod.fst).Nodup := by
  induction items generalizing index with
  | nil => exact h
  | cons x rest ih => exact ih (hstep index x h)

/-- Listing a container lists it for all its items. -/
theorem get?_enter (index : ItemIndex) (c : Container) (y : ItemId) :
    (index.enter c).get? y = if y ∈ c.items.map (·.id) then some c.id else index.get? y :=
  get?_foldl (fun index x y => get?_set index x.id c.id y) c.items index y

theorem nodup_keys_enter (h : (index.map Prod.fst).Nodup) (c : Container) :
    ((index.enter c).map Prod.fst).Nodup :=
  nodup_keys_foldl (fun _ _ h => nodup_keys_set h) h c.items

/-- Taking all items of a container off the index. -/
theorem get?_foldl_erase (items : List Item) (index : ItemIndex) (y : ItemId) :
    (items.foldl (fun index x => index.erase x.id) index).get? y =
      if y ∈ items.map (·.id) then none else index.get? y :=
  get?_foldl (fun index x y => get?_erase index x.id y) items index y

theorem nodup_keys_foldl_erase (h : (index.map Prod.fst).Nodup) (items : List Item) :
    ((items.foldl (fun index x => index.erase x.id) index).map Prod.fst).Nodup :=
  nodup_keys_foldl (fun _ _ h => nodup_keys_erase h) h items

end ItemIndex

end VisualQuery
