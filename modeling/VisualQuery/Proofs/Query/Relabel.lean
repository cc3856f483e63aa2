import VisualQuery.Proofs.Document.Normal
import VisualQuery.Proofs.Sql.Relabel

/-!
# Queries under other identities

`Query.relabel` builds a query from the renamed parts of another one, as a new query is built: its
index is entered anew, and its joins are registered one after the other. Nothing is lost on the way.
The items are still in one container each, and registering the joins changes no flag, since renaming
commutes with registering (`JoinRegistry.joins_foldl_extend_relabel`) and the joins of the original
query agree already. So the invariant carries over (`Coherent.relabel`), and the two queries are the
same but for their identities (`Coherent.relabeled`).
-/

namespace VisualQuery

variable (ρ : Relabeling)

/-! ### Lists of items -/

theorem Listing.relabel {items : List Item} {flag : Item → Bool} {ids : List ItemId}
    (h : Listing items flag ids) (hflag : ∀ x, flag (x.relabel ρ) = flag x) :
    Listing (items.map (Item.relabel ρ)) flag (ids.map ρ.item) where
  nodup := h.nodup.map ρ.item_injective
  mem_iff := by
    intro id
    constructor
    · intro hid
      obtain ⟨id₀, hid₀, rfl⟩ := List.mem_map.mp hid
      obtain ⟨x, hx, rfl, hxflag⟩ := (h.mem_iff id₀).mp hid₀
      exact ⟨x.relabel ρ, List.mem_map_of_mem hx, rfl, (hflag x).trans hxflag⟩
    · rintro ⟨_, hx, rfl, hxflag⟩
      obtain ⟨y, hy, rfl⟩ := List.mem_map.mp hx
      exact List.mem_map_of_mem ((h.mem_iff y.id).mpr ⟨y, hy, rfl, (hflag y).symm.trans hxflag⟩)

/-! ### Registries -/

theorem firstOuter?_relabel (js : List Join) (c : ContainerId) :
    firstOuter? (js.map (Join.relabel ρ)) (ρ.container c) = firstOuter? js c := by
  -- the first join that touches the table is found at the same place under either name
  have htouches : (fun j : Join => j.touches (ρ.container c)) ∘ Join.relabel ρ =
      fun j => j.touches c := funext fun j => j.touches_relabel ρ c
  have houter : ∀ j : Join, (fun side => ((j.relabel ρ).atSide side).outer) =
      fun side => (j.atSide side).outer := by
    intro j
    funext side
    rw [Join.atSide_relabel]
    rfl
  unfold firstOuter?
  rw [List.find?_map, htouches, Option.bind_map]
  refine congrArg (Option.bind _) (funext fun j => ?_)
  rw [Function.comp_apply, Join.sideOf?_relabel, houter]

/-- Renaming joins commutes with making their flags agree. -/
theorem Join.evened_relabel (js : List Join) (j : Join) :
    (j.relabel ρ).evened (js.map (Join.relabel ρ)) = (j.evened js).relabel ρ := by
  have hleft := firstOuter?_relabel ρ js j.left.container
  have hright := firstOuter?_relabel ρ js j.right.container
  change firstOuter? _ (j.relabel ρ).left.container = _ at hleft
  change firstOuter? _ (j.relabel ρ).right.container = _ at hright
  unfold Join.evened
  rw [hleft, hright]
  rfl

/-- **Renamed joins are registered with the flags of the original ones.** -/
theorem JoinRegistry.joins_foldl_extend_relabel {js : List Join}
    (hjs : ∀ j ∈ js, j.left.container ≠ j.right.container) :
    ((js.map (Join.relabel ρ)).foldl .extend empty).joins =
      (js.foldl .extend empty).joins.map (Join.relabel ρ) := by
  have hapart : ∀ j ∈ js.map (Join.relabel ρ), j.left.container ≠ j.right.container := by
    intro _ hj
    obtain ⟨k, hk, rfl⟩ := List.mem_map.mp hj
    exact fun heq => hjs k hk (ρ.container_injective heq)
  rw [joins_registered hapart, joins_registered hjs, List.map_map, List.map_map]
  exact List.map_congr_left fun j _ => j.evened_relabel ρ js

/-! ### Queries -/

namespace Query

open Document (ofQuery)

/-- **The query of the renamed parts**, which is in no compound edit. -/
def relabel (q : Query) : Query :=
  { onConstants (ρ.query q.id) q.name (q.constants.relabel ρ) with
    tables := q.tables.map (Container.relabel ρ)
    tableIds := q.tableIds.map ρ.container
    itemIndex := (q.containers.map (Container.relabel ρ)).foldl ItemIndex.enter []
    joins := (q.joins.joins.map (Join.relabel ρ)).foldl .extend .empty
    selection := q.selection.map ρ.item
    sortList := q.sortList.map ρ.item
    globalWhere := q.globalWhere, grouping := q.grouping, rowLimit := q.rowLimit
    streamingRowLimit := q.streamingRowLimit, streaming := q.streaming, zoom := q.zoom
    userOverride := q.userOverride, source := q.source }

variable {q : Query}

theorem containers_relabel (q : Query) :
    (q.relabel ρ).containers = q.containers.map (Container.relabel ρ) := rfl

theorem items_relabel (q : Query) : (q.relabel ρ).items = q.items.map (Item.relabel ρ) := by
  rw [items, items, containers_relabel, Container.flatMap_relabel_items]

namespace Coherent

variable (h : q.Coherent)
include h

theorem joins_relabel : (q.relabel ρ).joins.joins = q.joins.joins.map (Join.relabel ρ) := by
  have hsame : (q.joins.joins.foldl .extend JoinRegistry.empty).joins = q.joins.joins :=
    h.joins.joins_foldl_extend .empty rfl
  exact (JoinRegistry.joins_foldl_extend_relabel ρ h.joins.apart).trans (congrArg _ hsame)

theorem housed_relabel : Housed (q.relabel ρ).containers (q.relabel ρ).itemIndex := by
  -- the index of the renamed query is built anew, so unique identifiers are all it needs
  refine Housed.of_nodup ?_ ?_ ?_
  · rw [containers_relabel, Container.map_relabel_id]
    exact h.housed.containers_nodup.map ρ.container_injective
  · change ((q.relabel ρ).items.map (·.id)).Nodup
    rw [items_relabel, Item.map_relabel_id]
    exact h.itemIds_nodup.map ρ.item_injective
  · intro _ hk _ hx
    rw [containers_relabel] at hk
    obtain ⟨k, hkq, rfl⟩ := List.mem_map.mp hk
    obtain ⟨x, hxk, rfl⟩ := List.mem_map.mp hx
    exact congrArg (Option.map ρ.container) (h.housed.parent k hkq x hxk)

/-- **The invariant carries over to new identities.** -/
theorem relabel : (q.relabel ρ).Coherent where
  mapped := (Container.map_relabel_id ρ q.tables).trans (congrArg (List.map ρ.container) h.mapped)
  housed := h.housed_relabel ρ
  constants_kind := h.constants_kind
  tables_kind := by
    intro _ hk
    obtain ⟨k, hkq, rfl⟩ := List.mem_map.mp hk
    exact h.tables_kind k hkq
  selection := by
    rw [items_relabel]
    exact h.selection.relabel ρ fun _ => rfl
  sortList := by
    rw [items_relabel]
    exact h.sortList.relabel ρ fun _ => rfl
  joins := by
    refine JoinRegistry.Coherent.empty.foldl_extend ?_ fun _ hj => ?_
    · rw [Join.map_relabel_id]
      exact fresh_nil_left.mpr (h.joins.nodup_joins.map ρ.join_injective)
    · obtain ⟨k, hk, rfl⟩ := List.mem_map.mp hj
      exact fun heq => h.joins.apart k hk (ρ.container_injective heq)
  ends := by
    intro _ hj side
    rw [h.joins_relabel] at hj
    obtain ⟨j, hjq, rfl⟩ := List.mem_map.mp hj
    -- the table that holds the end is renamed along with it
    obtain ⟨k, hk, hid, hitem⟩ := (holdsEnd_iff h.housed).mp (h.ends j hjq side)
    rw [Join.atSide_relabel]
    refine (holdsEnd_iff (h.housed_relabel ρ)).mpr ⟨k.relabel ρ, List.mem_map_of_mem hk, ?_, ?_⟩
    · exact congrArg ρ.container hid
    · rw [Container.relabel_ids]
      exact List.mem_map_of_mem hitem
  globalWhere := h.globalWhere

theorem ofQuery_relabel : ofQuery (q.relabel ρ) = (ofQuery q).relabel ρ := by
  rw [(h.relabel ρ).listed.ofQuery_eq, h.listed.ofQuery_eq, h.joins_relabel]
  rfl

/-- **The renamed query is the same but for its identities.** -/
theorem relabeled : q.Relabeled ρ (q.relabel ρ) :=
  ⟨h, h.relabel ρ, h.ofQuery_relabel ρ⟩

end Coherent

end Query

end VisualQuery
