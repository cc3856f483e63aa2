import Mathlib.Data.List.Induction
import VisualQuery.Proofs.FailingListeners

/-!
# Each item under an identity of its own

An item is selected, removed and joined by its identity, so no two items of a query may have the
same one. The changes that add items look after this: an item is refused if the index lists it. A
table is checked in the same way, one item after the other, but its items are entered in the index
only when all of them have passed. So a table whose own items share an identity slips through, and
one of them is lost: look-ups find the other one.

This module says that nothing else can go wrong. The histories here are those of any tables. The
item identities stay distinct throughout a history if and only if every table that it adds brings
items with distinct identities (`itemIds_nodup_throughout_iff`). The proof runs the history up to
the moment in question: as long as the tables were sound the query has the invariant, and at a query
with the invariant a table that is refused changes nothing, whatever its items are.
-/

namespace VisualQuery

/-- What is asked of an edit but for the tables: fresh identities differ from each other. -/
def Edit.DrawsDistinct : Edit → Prop
  | .reset ids => ids.toList.Nodup
  | _ => True

namespace Query

variable {q : Query} {c : Container} {edits : List Edit}

/-! ### Adding one table -/

namespace Coherent

/-- A table that is added is new, and so are its items. -/
theorem addTable_of_ok (h : q.Coherent) {id : ContainerId}
    (hok : (Query.addTable c q).result = .ok id) :
    c.isConstants = false ∧ c.id ∉ q.containers.map (·.id) ∧
      (∀ x ∈ c.items, x.id ∉ q.items.map (·.id)) ∧
      (Query.addTable c q).query = (q.withTable c).noted := by
  -- each guard in turn would have refused the table
  have hrefused : ∀ {e : QueryError}, Query.addTable c q ≠ .refused e q := fun heq => by
    rw [heq] at hok
    cases hok
  have hkind : c.isConstants = false := by
    rw [← Bool.not_eq_true]
    exact fun hkind => hrefused (addTable_of_constants hkind)
  have hid : c.id ∉ q.containers.map (·.id) := fun hid => hrefused (h.addTable_of_mem hkind hid)
  have hitems : ∀ x ∈ c.items, x.id ∉ q.items.map (·.id) := fun x hx hitem => by
    obtain ⟨y, -, hy⟩ := h.addTable_of_item hkind hid hx hitem
    exact hrefused hy
  refine ⟨hkind, hid, hitems, ?_⟩
  rw [h.addTable_of_new hkind hid hitems]
  rfl

/-- **Adding a table keeps the item identities distinct exactly if those of the table are.** -/
theorem addTable_itemIds_nodup_iff (h : q.Coherent) {id : ContainerId}
    (hok : (Query.addTable c q).result = .ok id) :
    ((Query.addTable c q).query.items.map (·.id)).Nodup ↔ (c.items.map (·.id)).Nodup := by
  obtain ⟨-, -, hitems, hquery⟩ := h.addTable_of_ok hok
  have hids : (Query.addTable c q).query.items.map (·.id) =
      q.items.map (·.id) ++ c.items.map (·.id) := by
    rw [hquery, Query.withTable, foldl_enlist]
    change ((q.containers ++ [c.adopt]).flatMap (·.items)).map (·.id) = _
    rw [List.flatMap_append, List.flatMap_singleton, List.map_append, c.adopt_ids]
    rfl
  rw [hids, List.nodup_append']
  refine ⟨fun hnd => hnd.2.1, fun hnd => ⟨h.itemIds_nodup, hnd, fun x hx hxc => ?_⟩⟩
  -- the items of the table are new
  obtain ⟨y, hy, rfl⟩ := List.mem_map.mp hxc
  exact hitems y hy hx

/-- An edit keeps the invariant, if a table that it adds has items with distinct identities. A table
that it does not add is not asked for anything. -/
theorem change_of_added (h : q.Coherent) {e : Edit} (he : e.DrawsDistinct)
    (htable : ∀ c id, e = .addTable c → (Query.addTable c q).result = .ok id →
      (c.items.map (·.id)).Nodup) : (e.change q).query.Coherent := by
  -- adding a table is the one edit that may bring in an identifier twice
  cases e
  case addTable c =>
    rw [Edit.change, Change.map_query]
    cases hresult : (Query.addTable c q).result with
    | ok id => exact h.addTable c (htable c id rfl hresult)
    | error cause =>
      rw [addTable_atomic c q cause hresult]
      exact h
  case reset ids => exact h.change he
  all_goals exact h.change trivial

/-! ### A whole history -/

/-- The invariant holds at every moment of a history, if each table that is added at a query with
the invariant has items with distinct identities. -/
theorem after_of_added (h : q.Coherent) (hedits : ∀ e ∈ edits, e.DrawsDistinct)
    (htables : ∀ done c id, done ++ [.addTable c] <+: edits → (q.after done).Coherent →
      (Query.addTable c (q.after done)).result = .ok id → (c.items.map (·.id)).Nodup)
    {done : List Edit} (hdone : done <+: edits) : (q.after done).Coherent := by
  -- on the history from its end, as the condition speaks of the query before each edit
  induction done using List.reverseRecOn with
  | nil => exact h
  | append_singleton done e ih =>
    have hcoherent := ih ((List.prefix_append done [e]).trans hdone)
    have he : e ∈ edits := hdone.subset (List.mem_append_right _ List.mem_cons_self)
    have hafter : q.after (done ++ [e]) = (e.change (q.after done)).query :=
      List.foldl_concat _ _ _ _
    rw [hafter]
    exact hcoherent.change_of_added (hedits e he) fun c id hec hok =>
      htables done c id (hec ▸ hdone) hcoherent hok

end Coherent

/-- **Item identities stay distinct exactly as long as the tables that are added bring distinct
ones.** Take any edits of a new query, of which nothing is asked but that the identities which a
reset draws differ from each other.

* The items that the constants container and the tables hold have distinct identities at every
  moment of the history, if and only if every table that was added has items with distinct
  identities. A table that was refused does not matter.
* In that case every held item is found under its identity, at every moment. -/
theorem itemIds_nodup_throughout_iff (name : String) {supply : IdSupply} (hsupply : supply.Fresh 6)
    (hq : ((Query.new name).run supply).1 = q) (hedits : ∀ e ∈ edits, e.DrawsDistinct) :
    ((∀ done, done <+: edits → ((q.after done).items.map (·.id)).Nodup) ↔
      ∀ done c id, done ++ [.addTable c] <+: edits → (addTable c (q.after done)).result = .ok id →
        (c.items.map (·.id)).Nodup) ∧
    ((∀ done, done <+: edits → ((q.after done).items.map (·.id)).Nodup) →
      ∀ done, done <+: edits → (q.after done).FindsItems) := by
  have hnew : q.Coherent := hq ▸ coherent_new name hsupply
  have hcoherent : ∀ done, done <+: edits →
      (∀ done c id, done ++ [.addTable c] <+: edits → (addTable c (q.after done)).result = .ok id →
        (c.items.map (·.id)).Nodup) → (q.after done).Coherent := fun done hdone htables =>
    hnew.after_of_added hedits (fun done c id hdone _ hok => htables done c id hdone hok) hdone
  have hbrings : (∀ done, done <+: edits → ((q.after done).items.map (·.id)).Nodup) →
      ∀ done c id, done ++ [.addTable c] <+: edits → (addTable c (q.after done)).result = .ok id →
        (c.items.map (·.id)).Nodup := by
    intro hnodup
    -- behind a table that is added the identities are distinct, so it brings distinct ones
    have hstep : ∀ done c id, done ++ [.addTable c] <+: edits → (q.after done).Coherent →
        (addTable c (q.after done)).result = .ok id → (c.items.map (·.id)).Nodup := by
      intro done c id hdone hcoherent hok
      have hafter := hnodup _ hdone
      rw [after, List.foldl_concat, Edit.change, Change.map_query] at hafter
      exact (hcoherent.addTable_itemIds_nodup_iff hok).mp hafter
    intro done c id hdone hok
    have hprefix := (List.prefix_append done [.addTable c]).trans hdone
    exact hstep done c id hdone (hnew.after_of_added hedits hstep hprefix) hok
  refine ⟨⟨hbrings, fun htables done hdone => ?_⟩, fun hnodup done hdone => ?_⟩
  · exact (hcoherent done hdone htables).itemIds_nodup
  · exact (hcoherent done hdone (hbrings hnodup)).findsItems

/-- The sample history brings distinct identities, and so each of its items is found. -/
theorem itemIds_nodup_throughout_sample :
    (IdSupply.after 0).Fresh 6 ∧ (∀ e ∈ Edit.sample, e.DrawsDistinct) ∧
      (((Query.new "sample").run (IdSupply.after 0)).1.after Edit.sample).FindsItems := by
  have hedits : ∀ e ∈ Edit.sample, e.DrawsDistinct := by
    intro e he
    have hwellFormed := Edit.sample_wellFormed e he
    cases e <;> first | exact hwellFormed | trivial
  refine ⟨IdSupply.after_zero_fresh, hedits, ?_⟩
  have h := itemIds_nodup_throughout_iff "sample" IdSupply.after_zero_fresh rfl hedits
  refine h.2 (h.1.mpr fun done c id hdone _ => ?_) Edit.sample (List.prefix_refl _)
  exact Edit.sample_wellFormed _ (hdone.subset (List.mem_append_right _ List.mem_cons_self))

/-- A table with two columns under one identity. -/
def twins : Container :=
  { Container.table ⟨.ofNat 10⟩ "orders" with
    items := [Item.column ⟨.ofNat 11⟩ "number", Item.column ⟨.ofNat 11⟩ "customer"] }

/-- **A table slips through whose items share an identity.** It is added to a new query, and from
then on its second column is held and cannot be found: under its identity the first one is. -/
theorem addTable_twins :
    ((Query.new "sample").run (IdSupply.after 0)).1.Reachable ∧
      (addTable twins ((Query.new "sample").run (IdSupply.after 0)).1).result = .ok twins.id ∧
      ¬ ((addTable twins ((Query.new "sample").run (IdSupply.after 0)).1).query.items.map
        (·.id)).Nodup ∧
      ∃ x ∈ (addTable twins ((Query.new "sample").run (IdSupply.after 0)).1).query.items,
        ∃ y, (addTable twins ((Query.new "sample").run (IdSupply.after 0)).1).query.item? x.id =
          some y ∧ y.name ≠ x.name := by
  have hnodup : ¬ (twins.items.map (·.id)).Nodup := by decide
  have hnew := Reachable.new "sample" IdSupply.after_zero_fresh
  refine ⟨hnew, rfl, fun hids => hnodup ((hnew.coherent.addTable_itemIds_nodup_iff rfl).mp hids),
    ?_⟩
  -- the look-up finds the first of the twins, so the second is never found
  refine ⟨{ Item.column ⟨.ofNat 11⟩ "customer" with parent := some twins.id }, ?_,
    { Item.column ⟨.ofNat 11⟩ "number" with parent := some twins.id }, rfl, by decide⟩
  decide

end Query

end VisualQuery
