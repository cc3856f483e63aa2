import VisualQuery.Proofs.Document.Alike
import VisualQuery.Proofs.Document.Loaded
import VisualQuery.Proofs.Document.Same
import VisualQuery.Proofs.History

/-!
# Loading what was saved

Loading checks a document before it makes a query of it, and it rebuilds what the document leaves
out: the index, the registry of the joins, the flags of the selected items. The document of a query
with the invariant is well-formed, so no check fails (`Coherent.wellFormed_ofQuery`), and the
rebuilt parts are the ones the query had:

* every item is in one container, so the rebuilt index lists it with that;
* the joins at a table agree on its outer flag, so registering them again changes none
  (`JoinRegistry.Coherent.joins_foldl_extend`);
* the selection lists the selected items, so the flags stay (`Coherent.flagSelected_eq`).

The loaded query therefore has the invariant and the same document (`Coherent.toQuery_ofQuery`), and
so it is like the one that was saved.
-/

namespace VisualQuery

theorem Container.adopt_eq_self {c : Container} (h : ∀ x ∈ c.items, x.parent = some c.id) :
    c.adopt = c := by
  refine Container.mapItems_eq_self (g := fun x => { x with parent := some c.id }) fun x hx => ?_
  rw [← h x hx]

/-! ### Registering the joins again -/

/-- A join whose flags agree with those of the registered joins is registered as it is. -/
theorem JoinRegistry.Coherent.forced_eq_self {r : JoinRegistry} (h : r.Coherent) {j : Join}
    (hagree : ∀ k ∈ r.joins, ∀ s t, (k.atSide s).container = (j.atSide t).container →
      (k.atSide s).outer = (j.atSide t).outer) : r.forced j = j := by
  have hflag : ∀ t, (r.flagAt (j.atSide t).container).getD (j.atSide t).outer =
      (j.atSide t).outer := by
    intro t
    by_cases htouch : ∃ k ∈ r.joins, k.touches (j.atSide t).container = true
    · -- the flag of the container is that of the end of any of its joins
      obtain ⟨k, hk, hkt⟩ := htouch
      obtain ⟨s, hs⟩ := Join.exists_sideOf? hkt
      have hcontainer := Join.container_of_sideOf? hs
      rw [← hcontainer, h.flagAt_eq hk s, Option.getD_some]
      exact hagree k hk s t hcontainer
    · rw [flagAt_eq_none fun k hk => Bool.eq_false_iff.mpr fun hkt => htouch ⟨k, hk, hkt⟩,
        Option.getD_none]
  have hleft := hflag .left
  have hright := hflag .right
  change (r.flagAt j.left.container).getD j.left.outer = j.left.outer at hleft
  change (r.flagAt j.right.container).getD j.right.outer = j.right.outer at hright
  rw [forced, hleft, hright]

/-- **Joins that were registered can be registered again**, with their flags as they are. -/
theorem JoinRegistry.Coherent.joins_foldl_extend {r into : JoinRegistry} (h : r.Coherent)
    (hinto : into.Coherent) {rest : List Join} (hjoins : into.joins ++ rest = r.joins) :
    (rest.foldl .extend into).joins = r.joins := by
  induction rest generalizing into with
  | nil =>
    rw [List.append_nil] at hjoins
    exact hjoins
  | cons j rest ih =>
    -- the join is new to the registry so far, and its flags agree with those registered before it
    have hj : j ∈ r.joins := hjoins ▸ List.mem_append_right _ List.mem_cons_self
    have hearlier : ∀ k ∈ into.joins, k ∈ r.joins := fun k hk =>
      hjoins ▸ List.mem_append_left _ hk
    have hid : j.id ∉ into.ids := by
      have hnd := h.nodup_joins
      rw [← hjoins, List.map_append, List.nodup_append] at hnd
      rw [← hinto.mapped]
      exact fun hmem => hnd.2.2 j.id hmem j.id List.mem_cons_self rfl
    have hforced : into.forced j = j :=
      hinto.forced_eq_self fun k hk s t => h.agree k (hearlier k hk) j hj s t
    refine ih (hinto.extend hid (h.apart j hj)) ?_
    rw [JoinRegistry.extend, hforced, List.append_assoc, List.singleton_append, hjoins]

namespace Query

open Document (ofQuery)

variable {q : Query}

/-- The query with its containers and a new index of them, and with nothing else. -/
def containersOnly (q : Query) : Query :=
  { onConstants q.id q.name q.constants with
    tables := q.tables
    tableIds := q.tableIds
    itemIndex := q.tables.foldl ItemIndex.enter (ItemIndex.enter [] q.constants) }

namespace Coherent

variable (h : q.Coherent)
include h

/-! ### The document of a query -/

/-- **The document of a query with the invariant is well-formed.** -/
theorem wellFormed_ofQuery : (ofQuery q).WellFormed := by
  rw [h.listed.ofQuery_eq]
  exact {
    constants_kind := h.constants_kind
    tables_kind := h.tables_kind
    tables_nodup := h.mapped ▸ h.tableIds_nodup
    items_nodup := h.itemIds_nodup
    joins_nodup := h.joins.nodup_joins
    apart := h.joins.apart
    owned := fun j hj => ⟨(holdsEnd_iff h.housed).mp (h.ends j hj .left),
      (holdsEnd_iff h.housed).mp (h.ends j hj .right)⟩
    selected_known := fun _ hx => h.selection.mem_ids hx
    selected_nodup := h.selection.nodup
    -- a key of the sort list is a selected item with an order, which is both halves
    sorted_selected := fun x hx => by
      obtain ⟨item, hitem, rfl, hsorted⟩ := (h.sortList.mem_iff x).mp hx
      exact (h.mem_selection hitem).mpr (Bool.and_eq_true_iff.mp hsorted).1
    sorted_ordered := fun x hx => by
      obtain ⟨item, hitem, rfl, hsorted⟩ := (h.sortList.mem_iff x).mp hx
      exact ⟨item, hitem, rfl, (Bool.and_eq_true_iff.mp hsorted).2⟩
    sorted_nodup := h.sortList.nodup }

theorem listsSorted_ofQuery : (ofQuery q).ListsSorted := by
  rw [h.listed.ofQuery_eq]
  exact fun x hx hselected hordered => (h.mem_sortList hx).mpr
    (Bool.and_eq_true_iff.mpr ⟨(h.mem_selection hx).mp hselected, hordered⟩)

/-! ### What is made of it -/

/-- The flags follow the selection already. -/
theorem flagSelected_eq {k : Container} (hk : k ∈ q.containers) :
    Document.flagSelected q.selection k = k := by
  refine Container.mapItems_eq_self
    (g := fun x => { x with selected := decide (x.id ∈ q.selection) }) fun x hx => ?_
  have hflag : decide (x.id ∈ q.selection) = x.selected := by
    rw [Bool.eq_iff_iff, decide_eq_true_iff]
    exact h.mem_selection (mem_items.mpr ⟨k, hk, hx⟩)
  rw [hflag]

theorem adopt_eq {k : Container} (hk : k ∈ q.containers) : k.adopt = k :=
  Container.adopt_eq_self (h.housed.parent k hk)

/-- Before anything else, loading restores the containers. -/
theorem bare_ofQuery : (ofQuery q).bare = q.containersOnly := by
  -- in a coherent query every item has its parent, so adopting the items changes nothing
  have hconstants : q.constants.adopt = q.constants := h.adopt_eq List.mem_cons_self
  have htables : q.tables.map Container.adopt = q.tables :=
    (List.map_congr_left fun k hk => h.adopt_eq (List.mem_cons_of_mem _ hk)).trans (List.map_id' _)
  rw [h.listed.ofQuery_eq]
  change ({ onConstants q.id q.name q.constants with
    constants := q.constants.adopt
    tables := q.tables.map Container.adopt
    tableIds := q.tables.map (·.id)
    itemIndex := (q.tables.map Container.adopt).foldl ItemIndex.enter
      (ItemIndex.enter [] q.constants.adopt) } : Query) = q.containersOnly
  rw [hconstants, htables, h.mapped]
  rfl

/-- **A query with the invariant can be loaded from its document**, and what is loaded has the
invariant and the same document. -/
theorem toQuery_ofQuery :
    ∃ q', (ofQuery q).toQuery = .ok q' ∧ q'.Coherent ∧ ofQuery q' = ofQuery q := by
  have hapart : ∀ k ∈ (ofQuery q).tables, k.id ≠ (ofQuery q).constants.id := by
    rw [h.listed.ofQuery_eq]
    exact fun k hk => h.id_ne_constants hk
  have hpasses := (Document.passes_iff (d := ofQuery q) hapart).mpr h.wellFormed_ofQuery
  have hcoherent := hpasses.coherent_loaded hapart h.listsSorted_ofQuery
  refine ⟨_, Document.toQuery_eq_ok_iff.mpr ⟨hpasses, rfl⟩, hcoherent, ?_⟩
  have hflags : q.tables.map (Document.flagSelected q.selection) = q.tables :=
    (List.map_congr_left fun k hk => h.flagSelected_eq (List.mem_cons_of_mem _ hk)).trans
      (List.map_id' _)
  have hconstants : Document.flagSelected q.selection q.constants = q.constants :=
    h.flagSelected_eq List.mem_cons_self
  have hjoins : ((ofQuery q).joins.foldl .extend JoinRegistry.empty).joins = q.joins.joins := by
    rw [h.listed.ofQuery_eq]
    exact h.joins.joins_foldl_extend .empty (List.nil_append _)
  -- the parts that are rebuilt are the ones the query had
  refine hcoherent.listed.ofQuery_eq.trans (Eq.trans ?_ h.listed.ofQuery_eq.symm)
  rw [Document.loaded, h.bare_ofQuery]
  change ({ ofQuery q with
    constants := Document.flagSelected q.selection q.constants
    tables := q.tables.map (Document.flagSelected q.selection)
    joins := ((ofQuery q).joins.foldl .extend JoinRegistry.empty).joins
    globalWhere := Text.nonBlank q.globalWhere } : Document) = _
  rw [hconstants, hflags, hjoins, h.globalWhere]
  rfl

end Coherent

/-- **What is saved of a query can be loaded, and nothing is changed by it.** For every query that a
history comes to, loading its document under the identities of the document succeeds, without
drawing any identity. The loaded query is saved as the same document again, lists the same container
for each item and the same joins, in the same order, under each container. So it has the same
statement in every style, generated or overridden, and the same cross joins. -/
theorem Reachable.load_ofQuery (hq : q.Reachable) (supply : IdSupply) :
    ∃ q', (Document.load .preserve (ofQuery q)).run supply = (.ok q', supply) ∧
      ofQuery q' = ofQuery q ∧
      (∀ x, q'.itemIndex.get? x = q.itemIndex.get? x) ∧
      (∀ c, q'.joins.adjacency.lookup c = q.joins.adjacency.lookup c) ∧
      (∀ style, q'.generateStructural style = q.generateStructural style ∧
        q'.generate style = q.generate style) ∧
      q'.containsCrossJoins = q.containsCrossJoins := by
  have h := hq.coherent
  -- two coherent queries that are saved alike differ in nothing an answer depends on
  obtain ⟨q', hload, hcoherent, hsaved⟩ := h.toQuery_ofQuery
  have halike := h.alike hcoherent hsaved
  refine ⟨q', ?_, hsaved, halike.itemIndex, halike.adjacency,
    fun style => ⟨halike.generateStructural style, halike.generate style⟩,
    halike.containsCrossJoins⟩
  unfold Document.load
  rw [hload]
  rfl

/-- The sample query can be saved and loaded. -/
theorem load_ofQuery_sample :
    Session.sampleQuery.Reachable ∧ ∃ q',
      (Document.load .preserve (ofQuery Session.sampleQuery)).run (.after 0) = (.ok q', .after 0) ∧
        q'.joins.inOrder.length = 1 := by
  obtain ⟨q', hload, hsaved, -⟩ := Session.sampleQuery_reachable.load_ofQuery (.after 0)
  have hjoins : q'.joins.inOrder = Session.sampleQuery.joins.inOrder :=
    congrArg Document.joins hsaved
  refine ⟨Session.sampleQuery_reachable, q', hload, ?_⟩
  rw [hjoins]
  decide

end Query

end VisualQuery
