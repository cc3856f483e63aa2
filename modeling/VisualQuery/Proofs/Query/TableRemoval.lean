import VisualQuery.Proofs.Query.Heard
import VisualQuery.Proofs.Query.Shown

/-!
# What a removed table leaves behind

Removing a table is a cascade over five parts of a query. That nothing of the table is left and that
nothing else is touched is one equation: the document behind the removal is the one before it with
four of its lists filtered (`Query.Coherent.ofQuery_withoutTable`). The compound edit around the
cascade does not change the document, and it is over at the end, so it is only seen in the mark and
the message of an edit that was open already (`Query.closed_noted_opened`).

The listeners hear the same story (`Query.Coherent.events_removeTable`): each of its selected items,
each of its joins and the table itself is told once, in their order, and nothing else in between.
-/

namespace VisualQuery

namespace Query

variable {q : Query}

theorem withoutTable_opened (message : String) (k : Container) (q : Query) :
    (q.opened message).withoutTable k = (q.withoutTable k).opened message := by
  unfold opened
  show (if q.compoundDepth = 0 then _ else _ : Query).withoutTable k =
    if q.compoundDepth = 0 then _ else _
  split <;> rfl

/-- **A table is taken out of the document by filtering four of its lists.** -/
theorem Coherent.ofQuery_withoutTable (h : q.Coherent) {k : Container} (hk : k ∈ q.tables) :
    Document.ofQuery (q.withoutTable k) =
      { Document.ofQuery q with
        tables := q.tables.filter (·.id ≠ k.id)
        joins := q.joins.joins.filter (!·.touches k.id)
        selectedItems := q.selection.filter (· ∉ k.items.map (·.id))
        orderByItems := q.sortList.filter (· ∉ k.items.map (·.id)) } := by
  obtain ⟨-, -, hleft⟩ := h.joins.removeContainer_eq k.id
  rw [(h.withoutTable hk).listed.ofQuery_eq, ← hleft]
  rfl

end Query

namespace Session

open Change

/-- **Removing a table of the from-list succeeds and removes exactly the table**, its items from the
selection and the sort list, and the joins at it. The table is returned with no item selected.

* The document is the one before with the four lists filtered, so what is left keeps its order, and
  the joins that are left, all other containers and all settings stay as they were.
* The indexes list what they listed, without the items of the table and without its joins.
* The listeners hear of each selected item of the table, in its order, that it is selected no more,
  then of each join at the table, in the order of registration, that it is gone, and last that the
  table is gone; around this they hear of the compound edit if none was open, and that the query may
  be run. -/
theorem perform_removeTable {s : Session} (hbus : s.bus.Quiet) (hq : s.query.Reachable)
    {k : Container} (hk : k ∈ s.query.tables) :
    ∃ q' : Query,
      s.perform (.removeTable k.id) =
        { ending := .made (.container (k.mapItems fun x => { x with selected := false }))
          session := ⟨q', s.bus⟩
          told := (s.query.bracketed ("Removing table " ++ k.name)
            ((k.items.filter (·.selected)).map Item.deselection ++
              ((s.query.joins.inOrder.filter (·.touches k.id)).map .joinRemoved ++
                [.containerRemoved k.id]))).flatMap s.bus.deliveries } ∧
      Document.ofQuery q' =
        { Document.ofQuery s.query with
          tables := s.query.fromTables.filter (·.id ≠ k.id)
          joins := s.query.joins.inOrder.filter (!·.touches k.id)
          selectedItems := s.query.selection.filter (· ∉ k.items.map (·.id))
          orderByItems := s.query.sortList.filter (· ∉ k.items.map (·.id)) } ∧
      q'.source = s.query.source ∧
      (∀ x, q'.itemIndex.get? x =
        if x ∈ k.items.map (·.id) then none else s.query.itemIndex.get? x) ∧
      (∀ c, q'.joins.idsAt c =
        ((s.query.joins.inOrder.filter (!·.touches k.id)).filter (·.touches c)).map (·.id)) ∧
      q'.compoundDepth = s.query.compoundDepth ∧
      (0 < s.query.compoundDepth →
        q'.compoundMessage = s.query.compoundMessage ∧ q'.pending = true) := by
  have h := hq.coherent
  rw [h.fromTables_eq, h.joins.inOrder_eq]
  obtain ⟨q, bus⟩ := s
  let message := "Removing table " ++ k.name
  -- the session the theorem gives: the query less its table, with the trace of the brackets
  let q' := { q.withoutTable k with
    compoundMessage := if q.compoundDepth = 0 then "" else q.compoundMessage
    pending := decide (0 < q.compoundDepth) }
  obtain ⟨hresult, hquery⟩ := h.removeTable_of_mem hk
  -- inside the bracket the table is detached from the opened query; closing it again gives back
  -- everything but message and mark
  have hreached : (Query.removeTable k.id q).query = q' := by
    rw [hquery, Query.withoutTable_opened, Query.closed_noted_opened]
    rfl
  -- the reply is the table as it stood in the query, its items deselected on the way out
  have hchange : (Edit.removeTable k.id).change q =
      ⟨.ok (.container (k.mapItems fun x => { x with selected := false })), q',
        (Query.removeTable k.id q).log⟩ := by
    rw [Edit.change, map_apply, hresult, hreached]
    rfl
  have hevents := h.events_removeTable hk
  unfold Outcome.events at hevents
  -- the joins go one by one, and what is left is the filtered list with its adjacency
  obtain ⟨-, hcoh, hleft⟩ := h.joins.removeContainer_eq k.id
  refine ⟨q', ?_, h.ofQuery_withoutTable hk, rfl, ?_, ?_, rfl, ?_⟩
  · rw [perform_of_quiet hbus]
    dsimp only
    rw [hchange]
    dsimp only
    rw [hevents]
  · exact ItemIndex.get?_foldl_erase k.items q.itemIndex
  · intro c
    rw [← hleft]
    exact hcoh.idsAt_eq c
  · intro hd
    exact ⟨if_neg (Nat.ne_of_gt hd), decide_eq_true hd⟩

/-- The first table of the sample query has a selected item and a join; one table is left apart. -/
theorem perform_removeTable_sample :
    ∃ k ∈ sampleQuery.tables, k.name = "orders" ∧
      (perform ⟨sampleQuery, .log⟩ (.removeTable k.id)).told.map (·.event) =
        [.compoundStarted "Removing table orders",
          .itemChanged ⟨⟨.ofNat 11⟩, .selected, .bool true, .bool false⟩] ++
        sampleQuery.joins.inOrder.map .joinRemoved ++
        [.containerRemoved ⟨.ofNat 10⟩, .compoundEnded "Removing table orders", .canExecute] := by
  have hk : sampleQuery.tables.head (by decide) ∈ sampleQuery.tables := List.head_mem _
  obtain ⟨q', hperform, -⟩ :=
    perform_removeTable (s := ⟨sampleQuery, .log⟩) Bus.log_quiet sampleQuery_reachable hk
  refine ⟨_, hk, by decide, ?_⟩
  rw [hperform]
  dsimp only
  decide

end Session

end VisualQuery
