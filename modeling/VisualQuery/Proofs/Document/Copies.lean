import VisualQuery.Proofs.EventLog
import VisualQuery.Proofs.Query.Duplicate
import VisualQuery.Session

/-!
# Copies have nothing in common with the original but what they say

A query can be copied directly, or by saving it and loading the document under fresh identities.
Both ways lead to a copy in the same sense (`Session.IsCopy`): its document is that of the query,
renamed one to one, no identifier stands in both documents, and whatever does not depend on
identities is the same, first of all the statement. The listeners stay with the original.

What is asked of the identifiers is that those which are drawn differ from each other and from those
which stand in the document (`IdSupply.FreshFor`). A query with the invariant names nothing that is
not there, so the identifiers in its document are those of its own objects
(`Coherent.mem_identities_of_uuids`), and the identifiers in the copy are the ones that were drawn.
-/

namespace VisualQuery

/-! ### The identifiers in a document -/

/-- The identifiers that stand in an item: its own and that of its parent. -/
def Item.uuids (x : Item) : List Uuid := x.id.uuid :: (x.parent.map (·.uuid)).toList

/-- The identifiers that stand in a container. -/
def Container.uuids (k : Container) : List Uuid := k.id.uuid :: k.items.flatMap Item.uuids

/-- The identifiers that stand in an end of a join. -/
def JoinEnd.uuids (e : JoinEnd) : List Uuid := [e.container.uuid, e.item.uuid]

/-- The identifiers that stand in a join. -/
def Join.uuids (j : Join) : List Uuid := j.id.uuid :: (j.left.uuids ++ j.right.uuids)

/-- **The identifiers that stand in a document**, wherever they stand. -/
def Document.uuids (d : Document) : List Uuid :=
  d.id.uuid :: ((d.constants :: d.tables).flatMap Container.uuids ++ d.joins.flatMap Join.uuids ++
    d.selectedItems.map (·.uuid) ++ d.orderByItems.map (·.uuid))

/-- Enough identifiers are drawn next for the objects of a document, which differ from each other
and from all that stand in it. -/
def IdSupply.FreshFor (s : IdSupply) (d : Document) : Prop :=
  s.Fresh d.identities.length ∧ ∀ u ∈ s.draw d.identities.length, u ∉ d.uuids

/-- **A copy of a query**, whoever listens to the query. -/
structure Session.IsCopy (s copy : Session) : Prop where
  /-- It is saved as the renamed document, with nothing else changed. -/
  renamed : ∃ ρ : Relabeling, Document.ofQuery copy.query = (Document.ofQuery s.query).relabel ρ
  /-- No identifier in its document stands in that of the query. -/
  fresh : ∀ u ∈ (Document.ofQuery copy.query).uuids, u ∉ (Document.ofQuery s.query).uuids
  /-- The consistency check accepts it. -/
  consistent : copy.query.isConsistent = true
  /-- No compound edit is open. -/
  settled : copy.query.compoundDepth = 0
  /-- Nobody listens to it. -/
  unheard : copy.bus.subscriptions = []
  /-- Nobody is told of its edits. -/
  untold : ∀ e, (copy.perform e).told = []
  /-- It has the same statement in every style, generated or overridden. -/
  statement : ∀ style,
    copy.query.generateStructural style = s.query.generateStructural style ∧
      copy.query.generate style = s.query.generate style
  /-- Some table is joined without any condition if that is so in the query. -/
  crossJoins : copy.query.containsCrossJoins = s.query.containsCrossJoins

namespace Query

open Document (ofQuery)

variable {q : Query}

namespace Coherent

variable (h : q.Coherent)
include h

theorem container_mem_identities {k : Container} (hk : k ∈ q.containers) :
    k.id.uuid ∈ (ofQuery q).identities.map (·.uuid) := by
  have hmem : (⟨.container, k.id.uuid⟩ : Identity) ∈ q.containers.flatMap Container.identities :=
    List.mem_flatMap.mpr ⟨k, hk, List.mem_cons_self⟩
  rw [h.listed.ofQuery_eq]
  exact List.mem_map.mpr ⟨_, List.mem_cons_of_mem _ (List.mem_append_left _ hmem), rfl⟩

theorem item_mem_identities {id : ItemId} (hid : id ∈ q.items.map (·.id)) :
    id.uuid ∈ (ofQuery q).identities.map (·.uuid) := by
  obtain ⟨k, hk, hid⟩ := mem_itemIds.mp hid
  obtain ⟨x, hx, rfl⟩ := List.mem_map.mp hid
  have hmem : (⟨.item, x.id.uuid⟩ : Identity) ∈ q.containers.flatMap Container.identities :=
    List.mem_flatMap.mpr ⟨k, hk, List.mem_cons_of_mem _ (List.mem_map.mpr ⟨x, hx, rfl⟩)⟩
  rw [h.listed.ofQuery_eq]
  exact List.mem_map.mpr ⟨_, List.mem_cons_of_mem _ (List.mem_append_left _ hmem), rfl⟩

theorem end_mem_identities {j : Join} (hj : j ∈ q.joins.joins) (side : Side) {u : Uuid}
    (hu : u ∈ (j.atSide side).uuids) : u ∈ (ofQuery q).identities.map (·.uuid) := by
  obtain ⟨k, hk, hid, hitem⟩ := (holdsEnd_iff h.housed).mp (h.ends j hj side)
  have hkq : k ∈ q.containers := List.mem_cons_of_mem _ hk
  rw [JoinEnd.uuids, List.mem_pair, ← hid] at hu
  rcases hu with rfl | rfl
  · exact h.container_mem_identities hkq
  · exact h.item_mem_identities (mem_itemIds.mpr ⟨k, hkq, hitem⟩)

/-- **The document of a query with the invariant names nothing that is not there.** -/
theorem mem_identities_of_uuids {u : Uuid} (hu : u ∈ (ofQuery q).uuids) :
    u ∈ (ofQuery q).identities.map (·.uuid) := by
  rw [h.listed.ofQuery_eq] at hu
  change u ∈ q.id.uuid :: (q.containers.flatMap Container.uuids ++
    q.joins.joins.flatMap Join.uuids ++ q.selection.map (·.uuid) ++ q.sortList.map (·.uuid)) at hu
  rw [List.mem_cons, List.mem_append, List.mem_append, List.mem_append] at hu
  rcases hu with rfl | ((hcontainer | hjoin) | hselected) | hsorted
  · exact List.mem_cons_self
  · obtain ⟨k, hk, hu⟩ := List.mem_flatMap.mp hcontainer
    rcases List.mem_cons.mp hu with rfl | hu
    · exact h.container_mem_identities hk
    · obtain ⟨x, hx, hu⟩ := List.mem_flatMap.mp hu
      -- the parent of an item is the container it is in
      rw [Item.uuids, h.housed.parent k hk x hx] at hu
      rcases List.mem_pair.mp hu with rfl | rfl
      · exact h.item_mem_identities (mem_itemIds.mpr ⟨k, hk, List.mem_map_of_mem hx⟩)
      · exact h.container_mem_identities hk
  · obtain ⟨j, hj, hu⟩ := List.mem_flatMap.mp hjoin
    rw [Join.uuids, List.mem_cons, List.mem_append] at hu
    rcases hu with rfl | hu | hu
    · rw [h.listed.ofQuery_eq]
      refine List.mem_map.mpr ⟨⟨.join, j.id.uuid⟩, List.mem_cons_of_mem _ ?_, rfl⟩
      exact List.mem_append_right _ (List.mem_map.mpr ⟨j, hj, rfl⟩)
    · exact h.end_mem_identities hj .left hu
    · exact h.end_mem_identities hj .right hu
  · obtain ⟨x, hx, rfl⟩ := List.mem_map.mp hselected
    exact h.item_mem_identities (h.selection.mem_ids hx)
  · obtain ⟨x, hx, rfl⟩ := List.mem_map.mp hsorted
    exact h.item_mem_identities (h.sortList.mem_ids hx)

end Coherent

/-! ### Copies -/

/-- Where nobody listens, nobody is told of anything. -/
theorem told_of_unheard {s : Session} (h : s.bus.subscriptions = []) (e : Edit) :
    (s.perform e).told = [] := by
  have hquiet : s.bus.Quiet := fun t ht => absurd (h ▸ ht) List.not_mem_nil
  have hnobody : ∀ event, s.bus.deliveries event = [] := by
    intro event
    rw [Bus.deliveries, h]
    rfl
  rw [Session.perform_of_quiet hquiet, List.flatMap_eq_nil_iff]
  exact fun event _ => hnobody event

/-- A query that is the same under identities just drawn is a copy. -/
theorem Relabeled.isCopy {ρ : Relabeling} {copy : Query} (h : q.Relabeled ρ copy)
    {supply : IdSupply} (hs : supply.FreshFor (ofQuery q))
    (hdraws : ρ.Draws supply (ofQuery q).identities) (hdepth : copy.compoundDepth = 0) (bus : Bus) :
    (⟨q, bus⟩ : Session).IsCopy (.ofQuery copy) where
  renamed := ⟨ρ, h.saved⟩
  fresh := by
    intro u hu
    -- what stands in the copy was drawn
    have hdrawn := h.copy.mem_identities_of_uuids hu
    rw [h.saved, Document.identities_relabel, List.map_map] at hdrawn
    exact hs.2 u (hdraws ▸ hdrawn)
  consistent := h.copy.isConsistent
  settled := hdepth
  unheard := rfl
  untold := told_of_unheard rfl
  statement := fun style => ⟨h.generateStructural style, h.generate style⟩
  crossJoins := h.containsCrossJoins

/-- **Copying a query gives a copy.** For every query that a history comes to, with any listeners,
as long as the identifiers that are drawn differ from each other and from those of the query: what
`duplicate` makes of it is a copy with the same data source, and loading its document under fresh
identities succeeds and gives a copy as well. -/
theorem Reachable.duplicate_isCopy (hq : q.Reachable) {supply : IdSupply}
    (hs : supply.FreshFor (ofQuery q)) (bus : Bus) :
    let s : Session := ⟨q, bus⟩
    s.IsCopy (s.duplicate.run supply).1 ∧ (s.duplicate.run supply).1.query.source = q.source ∧
      ∃ copy supply', (Session.load .regenerate (ofQuery q)).run supply = (.ok copy, supply') ∧
        s.IsCopy copy := by
  intro s
  have h := hq.coherent
  obtain ⟨ρ, hdraws⟩ := Relabeling.exists_draws h.identities_nodup hs.1
  obtain ⟨q', hload, h', hsaved⟩ := h.toQuery_ofQuery
  -- the loaded query differs from the original one in its indexes only
  have hdraws' : ρ.Draws supply (ofQuery q').identities := by
    rw [hsaved]
    exact hdraws
  have hrelabeled : q.Relabeled ρ (q'.relabel ρ) :=
    ⟨h, h'.relabel ρ, (h'.ofQuery_relabel ρ).trans (congrArg _ hsaved)⟩
  have hcopied : s.duplicate.run supply =
      (.ofQuery (q.relabel ρ), supply.skip (ofQuery q).identities.length) :=
    Minting.run_bind_eq (h.duplicate_run hdraws) _
  have hloaded : (Document.load .regenerate (ofQuery q)).run supply =
      (.ok (q'.relabel ρ), supply.skip (ofQuery q').identities.length) := by
    unfold Document.load
    rw [hload]
    exact Minting.run_bind_eq (h'.duplicate_run hdraws') _
  rw [hcopied]
  exact ⟨(h.relabeled ρ).isCopy hs hdraws rfl bus, rfl, _, _, Minting.run_bind_eq hloaded _,
    hrelabeled.isCopy hs hdraws rfl bus⟩

/-- The sample query can be copied both ways, and the log hears nothing of either copy. -/
theorem duplicate_isCopy_sample :
    Session.sampleQuery.Reachable ∧ (IdSupply.after 100).FreshFor (ofQuery Session.sampleQuery) ∧
      let s : Session := ⟨Session.sampleQuery, .log⟩
      (ofQuery (s.duplicate.run (.after 100)).1.query).joins.length = 1 ∧
      (s.duplicate.run (.after 100)).1.bus.subscriptions = [] ∧
      ∃ copy supply', (Session.load .regenerate (ofQuery Session.sampleQuery)).run (.after 100) =
        (.ok copy, supply') ∧ (ofQuery copy.query).selectedItems.length = 2 ∧
          copy.bus.subscriptions = [] := by
  have hfresh : (IdSupply.after 100).FreshFor (ofQuery Session.sampleQuery) := by
    unfold IdSupply.FreshFor IdSupply.Fresh
    decide +kernel
  obtain ⟨hcopy, -, copy, supply', hload, hloaded⟩ :=
    Session.sampleQuery_reachable.duplicate_isCopy hfresh .log
  -- the copies are the renamed document, so lengths are those of the original
  obtain ⟨ρ, hsaved⟩ := hcopy.renamed
  obtain ⟨σ, hsaved'⟩ := hloaded.renamed
  have hjoins : (ofQuery Session.sampleQuery).joins.length = 1 := by decide
  have hselected : (ofQuery Session.sampleQuery).selectedItems.length = 2 := by decide
  refine ⟨Session.sampleQuery_reachable, hfresh, ?_, hcopy.unheard, copy, supply', hload, ?_,
    hloaded.unheard⟩
  · rw [hsaved]
    exact (List.length_map _).trans hjoins
  · rw [hsaved']
    exact (List.length_map _).trans hselected

end Query

end VisualQuery
