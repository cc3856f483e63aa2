import VisualQuery.Proofs.JoinGraph.Relabel
import VisualQuery.Sql.Statement

/-!
# Queries that are the same but for their identities

A statement names tables by their names and aliases and items by their texts. Identities only lead
from one part of a query to another, and they lead to the corresponding part if all of them are
exchanged for others, one to one. So two queries whose documents differ in this way only
(`Query.Relabeled`) have the same statement in every style (`Relabeled.statement`), and some table
is joined without any condition in the one if that is so in the other
(`Relabeled.containsCrossJoins`).

Both queries are asked to have the invariant: a document leaves the indexes out, and what is looked
up in an index is then known from the rest. Every function that reads a query has one lemma here,
which says what it gives at the new identities; the proofs follow the functions.
-/

namespace VisualQuery.Query

/-- **The same query under other identities.** -/
structure Relabeled (ρ : Relabeling) (q q' : Query) : Prop where
  /-- The one query has the invariant. -/
  original : q.Coherent
  /-- The other one has it. -/
  copy : q'.Coherent
  /-- Its document is the renamed one. -/
  saved : Document.ofQuery q' = (Document.ofQuery q).relabel ρ

namespace Relabeled

variable {ρ : Relabeling} {q q' : Query} (h : q.Relabeled ρ q')
include h

/-! ### What the document says -/

theorem tables : q'.tables = q.tables.map (Container.relabel ρ) := by
  rw [← h.copy.fromTables_eq, ← h.original.fromTables_eq]
  exact congrArg Document.tables h.saved

theorem constants : q'.constants = q.constants.relabel ρ := congrArg Document.constants h.saved

theorem joins : q'.joins.joins = q.joins.joins.map (Join.relabel ρ) := by
  rw [← h.copy.joins.inOrder_eq, ← h.original.joins.inOrder_eq]
  exact congrArg Document.joins h.saved

theorem selection : q'.selection = q.selection.map ρ.item := congrArg Document.selectedItems h.saved

theorem sortList : q'.sortList = q.sortList.map ρ.item := congrArg Document.orderByItems h.saved

theorem globalWhere : q'.globalWhere = q.globalWhere := congrArg Document.globalWhere h.saved

theorem grouping : q'.grouping = q.grouping := congrArg Document.grouping h.saved

theorem userOverride : q'.userOverride = q.userOverride := congrArg Document.userOverride h.saved

/-! ### Looking things up -/

theorem containers : q'.containers = q.containers.map (Container.relabel ρ) := by
  rw [Query.containers, Query.containers, h.constants, h.tables, List.map_cons]

theorem tableIds : q'.tableIds = q.tableIds.map ρ.container := by
  rw [← h.copy.mapped, ← h.original.mapped, h.tables, Container.map_relabel_id]

theorem container? (c : ContainerId) :
    q'.container? (ρ.container c) = (q.container? c).map (Container.relabel ρ) := by
  have hid : (fun k : Container => decide (k.id = ρ.container c)) ∘ Container.relabel ρ =
      fun k => decide (k.id = c) :=
    funext fun k => decide_eq_decide.mpr (ρ.container_inj (c := k.id))
  rw [container?_eq_find?, container?_eq_find?, h.containers, List.find?_map, hid]

theorem containerOf? (x : ItemId) :
    q'.containerOf? (ρ.item x) = (q.containerOf? x).map (Container.relabel ρ) := by
  ext k'
  -- an item is looked up in the container that holds it
  rw [h.copy.housed.containerOf?_iff, Option.map_eq_some_iff, h.containers]
  simp only [h.original.housed.containerOf?_iff, List.mem_map (f := Container.relabel ρ)]
  constructor
  · rintro ⟨⟨k, hk, rfl⟩, hx⟩
    rw [Container.relabel_ids, List.mem_map_of_injective ρ.item_injective] at hx
    exact ⟨k, ⟨hk, hx⟩, rfl⟩
  · rintro ⟨k, ⟨hk, hx⟩, rfl⟩
    refine ⟨⟨k, hk, rfl⟩, ?_⟩
    rw [Container.relabel_ids]
    exact List.mem_map_of_mem hx

theorem item? (x : ItemId) : q'.item? (ρ.item x) = (q.item? x).map (Item.relabel ρ) := by
  rw [Query.item?, Query.item?, h.containerOf?, Option.bind_map, Option.map_bind]
  exact congrArg (Option.bind _) (funext fun k => k.item?_relabel ρ x)

theorem joinsAt (c : ContainerId) :
    q'.joins.joinsAt (ρ.container c) = (q.joins.joinsAt c).map (Join.relabel ρ) := by
  rw [h.copy.joins.joinsAt_eq, h.original.joins.joinsAt_eq, h.joins, List.filter_map]
  exact congrArg (List.map _) (List.filter_congr fun j _ => j.touches_relabel ρ c)

theorem joinsBetween (c d : ContainerId) :
    q'.joins.joinsBetween (ρ.container c) (ρ.container d) =
      (q.joins.joinsBetween c d).map (Join.relabel ρ) := by
  rw [JoinRegistry.joinsBetween, JoinRegistry.joinsBetween, h.joinsAt, List.filter_map]
  exact congrArg (List.map _) (List.filter_congr fun j _ => j.connects_relabel ρ c d)

theorem areJoined (c d : ContainerId) :
    q'.joins.areJoined (ρ.container c) (ρ.container d) = q.joins.areJoined c d := by
  rw [JoinRegistry.areJoined, JoinRegistry.areJoined, h.joinsBetween, List.isEmpty_map]

theorem finishOrder : q'.finishOrder = q.finishOrder.map ρ.container := by
  rw [Query.finishOrder, Query.finishOrder, h.tableIds]
  exact finishOrder_relabel ρ q.tableIds (congrArg Document.joins h.saved)

/-- The search for cross joins has the same result. -/
theorem containsCrossJoins : q'.containsCrossJoins = q.containsCrossJoins := by
  have hof : ∀ r : Query,
      r.containsCrossJoins = VisualQuery.startsApart r.joins [] r.finishOrder := fun _ => rfl
  rw [hof, hof, h.finishOrder]
  exact startsApart_relabel ρ h.areJoined [] q.finishOrder

/-! ### Expressions -/

theorem isAggregated (x : Item) : q'.isAggregated (x.relabel ρ) = q.isAggregated x := by
  rw [Query.isAggregated, Query.isAggregated, h.grouping]
  rfl

theorem qualifyingTable? (x : Item) :
    q'.qualifyingTable? (x.relabel ρ) = (q.qualifyingTable? x).map (Container.relabel ρ) := by
  have hkind : (x.relabel ρ).kind = x.kind := rfl
  have hid : (x.relabel ρ).id = ρ.item x.id := rfl
  rw [Query.qualifyingTable?, Query.qualifyingTable?, hkind, hid, h.containerOf?]
  split
  · rw [Option.filter_map]
    rfl
  · rfl

theorem plainExpr (style : Style) (x : Item) :
    q'.plainExpr style (x.relabel ρ) = q.plainExpr style x := by
  have hqualifier : q'.qualifierTokens (x.relabel ρ) = q.qualifierTokens x := by
    rw [qualifierTokens, qualifierTokens, h.qualifyingTable?]
    cases q.qualifyingTable? x <;> rfl
  rw [Query.plainExpr, Query.plainExpr, hqualifier]
  rfl

theorem selectedExpr (style : Style) (x : Item) :
    q'.selectedExpr style (x.relabel ρ) = q.selectedExpr style x := by
  rw [Query.selectedExpr, Query.selectedExpr, itemExpr, itemExpr, h.isAggregated, h.plainExpr]
  rfl

theorem member (style : Style) (x : Item) : q'.member style (x.relabel ρ) = q.member style x := by
  rw [Query.member, Query.member, h.selectedExpr, h.isAggregated]
  rfl

/-! ### Tables -/

theorem condition? (style : Style) (j : Join) :
    q'.condition? style (j.relabel ρ) = q.condition? style j := by
  have hend : ∀ e : JoinEnd, q'.item? (e.relabel ρ).item = (q.item? e.item).map (Item.relabel ρ) :=
    fun e => h.item? e.item
  have hleft := hend j.left
  have hright := hend j.right
  change q'.item? (j.relabel ρ).left.item = _ at hleft
  change q'.item? (j.relabel ρ).right.item = _ at hright
  rw [Query.condition?, Query.condition?, hleft, hright]
  -- an end that is not found drops the condition in both queries
  cases q.item? j.left.item with
  | none => rfl
  | some left =>
    cases q.item? j.right.item with
    | none => rfl
    | some right =>
      change some _ = some _
      rw [h.plainExpr, h.plainExpr]
      rfl

theorem joinsBack (earlier : List ContainerId) (c : ContainerId) :
    q'.joinsBack (earlier.map ρ.container) (ρ.container c) =
      (q.joinsBack earlier c).map (Join.relabel ρ) := by
  rw [Query.joinsBack, Query.joinsBack, h.joinsAt, List.filter_map]
  refine congrArg (List.map _) (List.filter_congr fun j _ => ?_)
  have hmem : (fun d => decide (d ∈ earlier.map ρ.container)) ∘ ρ.container =
      fun d => decide (d ∈ earlier) :=
    funext fun d => decide_eq_decide.mpr (List.mem_map_of_injective ρ.container_injective)
  rw [Function.comp_apply, Join.otherContainer?_relabel, Option.map_map, hmem]

theorem joinKind (c previous : ContainerId) :
    q'.joinKind (ρ.container c) (ρ.container previous) = q.joinKind c previous := by
  rw [Query.joinKind, Query.joinKind, h.joinsBetween, List.head?_map, Option.map_map]
  rfl

theorem joinedTable (style : Style) (earlier : List ContainerId) (previous : ContainerId)
    (k : Container) (c : ContainerId) :
    q'.joinedTable style (earlier.map ρ.container) (ρ.container previous) (k.relabel ρ)
      (ρ.container c) = q.joinedTable style earlier previous k c := by
  rw [Query.joinedTable, Query.joinedTable, h.joinKind, h.joinsBack, List.filterMap_map]
  have hconditions : q'.condition? style ∘ Join.relabel ρ = q.condition? style :=
    funext (h.condition? style)
  rw [hconditions]
  rfl

theorem joinedTables (style : Style) (earlier : List ContainerId) (previous : ContainerId)
    (rest : List ContainerId) :
    q'.joinedTables style (earlier.map ρ.container) (ρ.container previous)
      (rest.map ρ.container) = q.joinedTables style earlier previous rest := by
  induction rest generalizing earlier previous with
  | nil => rfl
  | cons c rest ih =>
    -- behind the first table, that table is among the ones named before
    have htail := ih (earlier ++ [c]) c
    rw [List.map_append, List.map_singleton] at htail
    rw [List.map_cons, Query.joinedTables, Query.joinedTables, htail, h.container?, Option.map_map]
    have htable : (fun k => q'.joinedTable style (earlier.map ρ.container) (ρ.container previous) k
          (ρ.container c)) ∘ Container.relabel ρ =
        fun k => q.joinedTable style earlier previous k c :=
      funext fun k => h.joinedTable style earlier previous k c
    rw [htable]

theorem fromClause? (style : Style) : q'.fromClause? style = q.fromClause? style := by
  rw [Query.fromClause?, Query.fromClause?, h.finishOrder]
  cases q.finishOrder with
  | nil => rfl
  | cons c rest =>
    -- the table before is a renamed one too, so the list of earlier tables starts with it
    have htables := h.joinedTables style [c] c rest
    rw [List.map_singleton] at htables
    rw [List.map_cons]
    dsimp only
    rw [h.container?, htables, Option.map_map]
    rfl

/-! ### The statement -/

theorem filterMap_item? (ids : List ItemId) :
    (ids.map ρ.item).filterMap q'.item? = (ids.filterMap q.item?).map (Item.relabel ρ) := by
  rw [List.filterMap_map, List.map_filterMap]
  exact congrArg (List.filterMap · ids) (funext h.item?)

theorem selectedItems : q'.selectedItems = q.selectedItems.map (Item.relabel ρ) := by
  rw [Query.selectedItems, Query.selectedItems, h.selection, h.filterMap_item?]

theorem filters (style : Style) : q'.filters style = q.filters style := by
  rw [Query.filters, Query.filters, h.copy.itemsInOrder_eq, h.original.itemsInOrder_eq, items,
    items, h.containers, Container.flatMap_relabel_items,
    List.filterMap_map, h.globalWhere]
  refine congrArg (· ++ _) (congrArg (List.filterMap · _) (funext fun x => ?_))
  rw [Function.comp_apply, h.plainExpr]
  rfl

theorem groupKeys (style : Style) : q'.groupKeys style = q.groupKeys style := by
  rw [Query.groupKeys, Query.groupKeys, h.selectedItems, List.filter_map, List.map_map]
  exact congrArg (List.map · _) (funext (h.plainExpr style))

theorem groupFilters (style : Style) : q'.groupFilters style = q.groupFilters style := by
  rw [Query.groupFilters, Query.groupFilters, h.selectedItems, List.filterMap_map]
  refine congrArg (List.filterMap · _) (funext fun x => ?_)
  rw [Function.comp_apply, h.selectedExpr]
  rfl

theorem sortKeys (style : Style) : q'.sortKeys style = q.sortKeys style := by
  rw [Query.sortKeys, Query.sortKeys, h.sortList, h.filterMap_item?, List.map_map]
  refine congrArg (List.map · _) (funext fun x => ?_)
  rw [Function.comp_apply, h.selectedExpr]
  rfl

/-- **Queries that are the same but for their identities have the same statement.** -/
theorem statement (style : Style) : q'.statement style = q.statement style := by
  have hmembers : q'.selectedItems.map (q'.member style) =
      q.selectedItems.map (q.member style) := by
    rw [h.selectedItems, List.map_map]
    exact congrArg (List.map · _) (funext (h.member style))
  rw [Query.statement, Query.statement, hmembers, h.fromClause?, h.filters, h.grouping, h.groupKeys,
    h.groupFilters, h.sortKeys]

theorem generateStructural (style : Style) :
    q'.generateStructural style = q.generateStructural style := by
  rw [Query.generateStructural, Query.generateStructural, structuralTokens, structuralTokens,
    h.selection, List.isEmpty_map, h.statement]

theorem generate (style : Style) : q'.generate style = q.generate style := by
  rw [Query.generate, Query.generate, h.userOverride, h.generateStructural]

end Relabeled

end VisualQuery.Query
