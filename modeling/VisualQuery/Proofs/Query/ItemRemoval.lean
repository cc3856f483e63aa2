import VisualQuery.Proofs.Query.Heard
import VisualQuery.Proofs.Query.Shown

/-!
# What a removed item leaves behind

A table goes with all that is in it; an item leaves its container standing. So the document behind
the removal of an item differs from the one before in four places: the container that held it, the
joins at it, the selection and the sort list (`Query.Coherent.ofQuery_withoutItem`). The joins are
found by their ends, and joins at other items of the same container are none of them.

The rest is as for a table: the compound edit around the cascade is only seen in its marks, and the
listeners hear of the steps in their order (`Query.Coherent.events_removeItem`).
-/

namespace VisualQuery

namespace Query

variable {q : Query}

theorem withoutItem_opened (message : String) (id : ItemId) (q : Query) :
    (q.opened message).withoutItem id = (q.withoutItem id).opened message := by
  unfold opened
  show (if q.compoundDepth = 0 then _ else _ : Query).withoutItem id =
    if q.compoundDepth = 0 then _ else _
  split <;> rfl

/-- Among distinct identities, an item is taken off the list by its identity. -/
theorem Coherent.erase_item (h : q.Coherent) {k : Container} (hk : k ∈ q.containers) {x : Item}
    (hx : x ∈ k.items) : k.items.erase x = k.items.filter (·.id ≠ x.id) := by
  have hnd : (k.items.map (·.id)).Nodup := h.housed.nodup_of_mem hk
  rw [(List.Nodup.of_map _ hnd).erase_eq_filter]
  refine List.filter_congr fun y hy => ?_
  rw [Bool.eq_iff_iff, bne_iff_ne, decide_eq_true_iff]
  exact not_congr ⟨congrArg Item.id, List.inj_on_of_nodup_map hnd hy hx⟩

/-- **An item is taken out of the document** by taking it out of its container and filtering three
lists. -/
theorem Coherent.ofQuery_withoutItem (h : q.Coherent) {k : Container} (hk : k ∈ q.containers)
    {x : Item} (hx : x ∈ k.items) :
    Document.ofQuery (q.withoutItem x.id) =
      { Document.ofQuery (q.modifyContainer k.id fun k => { k with items := k.items.erase x }) with
        joins := q.joins.joins.filter (!·.references x.id)
        selectedItems := q.selection.filter (· ≠ x.id)
        orderByItems := q.sortList.filter (· ≠ x.id) } := by
  obtain ⟨-, hcoh, hleft⟩ := h.joins.removeOfItem_eq x.id
  -- no other container has the identity, so it does not matter which items are left in them
  have hcontainer : (q.modifyContainer k.id fun k => { k with items := k.items.erase x }) =
      q.filterItems (·.id ≠ x.id) := by
    rw [← h.housed.filterItem_eq hk (List.mem_map_of_mem hx), h.housed.modifyContainer_eq,
      h.housed.modifyContainer_eq]
    refine mapContainers_congr fun k' hk' => ?_
    by_cases hid : k'.id = k.id
    · rw [if_pos hid, if_pos hid, h.housed.eq_of_id hk' hk hid, h.erase_item hk hx]
      rfl
    · rw [if_neg hid, if_neg hid]
  rw [hcontainer, ← hleft, ← hcoh.inOrder_eq]
  rfl

end Query

namespace Session

open Change

/-- **Removing an item succeeds and removes exactly the item**, from the container that holds it,
the selection and the sort list, and the joins that have an end at it. The item is returned outside
the selection and without a parent.

* The document is the one before but for these four places, and what is left in them keeps its
  order: the joins at other items of the container stay as they were, and so do all other containers
  and all settings.
* The indexes list what they listed, without the item and without its joins.
* The listeners hear that the item is selected no more, if it was, then of each join at the item, in
  the order of registration, that it is gone, and last that the item is gone; around this they hear
  of the compound edit if none was open, and that the query may be run. -/
theorem perform_removeItem {s : Session} (hbus : s.bus.Quiet) (hq : s.query.Reachable)
    {k : Container} (hk : k ∈ s.query.containers) {x : Item} (hx : x ∈ k.items) :
    ∃ q' : Query,
      s.perform (.removeItem x.id) =
        { ending := .made (.item { x with selected := false, parent := none })
          session := ⟨q', s.bus⟩
          told := (s.query.bracketed ("Removing item " ++ x.name)
            ((if x.selected then [x.deselection] else []) ++
              ((s.query.joins.inOrder.filter (·.references x.id)).map .joinRemoved ++
                [.itemRemoved k.id x.id]))).flatMap s.bus.deliveries } ∧
      Document.ofQuery q' =
        { Document.ofQuery (s.query.modifyContainer k.id fun k =>
            { k with items := k.items.erase x }) with
          joins := s.query.joins.inOrder.filter (!·.references x.id)
          selectedItems := s.query.selection.filter (· ≠ x.id)
          orderByItems := s.query.sortList.filter (· ≠ x.id) } ∧
      q'.source = s.query.source ∧
      (∀ y, q'.itemIndex.get? y = if y = x.id then none else s.query.itemIndex.get? y) ∧
      (∀ c, q'.joins.idsAt c =
        ((s.query.joins.inOrder.filter (!·.references x.id)).filter (·.touches c)).map (·.id)) ∧
      q'.compoundDepth = s.query.compoundDepth ∧
      (0 < s.query.compoundDepth →
        q'.compoundMessage = s.query.compoundMessage ∧ q'.pending = true) := by
  have h := hq.coherent
  rw [h.joins.inOrder_eq]
  obtain ⟨q, bus⟩ := s
  let message := "Removing item " ++ x.name
  -- the brackets leave their trace in message and mark only, the item is gone from the rest
  let q' := { q.withoutItem x.id with
    compoundMessage := if q.compoundDepth = 0 then "" else q.compoundMessage
    pending := decide (0 < q.compoundDepth) }
  have hreach := h.removeItem_of_mem (Query.mem_items.mpr ⟨k, hk, hx⟩)
  rw [Query.withoutItem_opened, Query.closed_noted_opened] at hreach
  -- the registry removes one join after the other; in the end the survivors are filtered out
  obtain ⟨-, hcoh, hleft⟩ := h.joins.removeOfItem_eq x.id
  refine ⟨q', ?_, h.ofQuery_withoutItem hk hx, rfl, ?_, ?_, rfl, ?_⟩
  · rw [perform_made hbus rfl hreach, h.events_removeItem hk hx]
    rfl
  · exact ItemIndex.get?_erase q.itemIndex x.id
  · intro c
    rw [← hleft]
    exact hcoh.idsAt_eq c
  · intro hd
    exact ⟨if_neg (Nat.ne_of_gt hd), decide_eq_true hd⟩

/-- The second item of the first table of the sample query is at its join, but not selected. -/
theorem perform_removeItem_sample :
    ∃ k ∈ sampleQuery.containers, ∃ x ∈ k.items, k.name = "orders" ∧ x.name = "customer" ∧
      (perform ⟨sampleQuery, .log⟩ (.removeItem x.id)).told.map (·.event) =
        .compoundStarted "Removing item customer" :: sampleQuery.joins.inOrder.map .joinRemoved ++
        [.itemRemoved k.id x.id, .compoundEnded "Removing item customer", .canExecute] := by
  let k := sampleQuery.tables.head (by decide)
  have hk : k ∈ sampleQuery.containers := List.mem_cons_of_mem _ (List.head_mem _)
  have hx : k.items.getLast (by decide) ∈ k.items := List.getLast_mem _
  obtain ⟨q', hperform, -⟩ :=
    perform_removeItem (s := ⟨sampleQuery, .log⟩) Bus.log_quiet sampleQuery_reachable hk hx
  refine ⟨k, hk, _, hx, by decide, by decide, ?_⟩
  rw [hperform]
  dsimp only
  decide

end Session

end VisualQuery
