import VisualQuery.Document
import VisualQuery.Proofs.Query.Coherent
import VisualQuery.Sql.Statement

/-!
# Queries that are saved alike

A document leaves out the index of a query, that of its joins, and what is not part of the model.
Two queries are alike (`Query.Alike`) if they are saved as the same document, hold the same tables
and joins, and their indexes say the same, in whatever order they are kept. Everything that is read
off a query by looking things up is then the same, in particular the statement in every style
(`Alike.statement`) and whether some table is joined without any condition
(`Alike.containsCrossJoins`).

For queries with the invariant all this follows from the document, so two of them that are saved as
the same document are alike (`Coherent.alike`).
-/

namespace VisualQuery.Query

/-- **The same document, the same tables and joins, and the same indexes.** -/
structure Alike (q q' : Query) : Prop where
  /-- The queries are saved as the same document. -/
  saved : Document.ofQuery q' = Document.ofQuery q
  /-- They hold the same tables. -/
  tables : q'.tables = q.tables
  /-- They have the same from-list. -/
  tableIds : q'.tableIds = q.tableIds
  /-- They hold the same joins. -/
  joins : q'.joins.joins = q.joins.joins
  /-- The joins were registered in the same order. -/
  ids : q'.joins.ids = q.joins.ids
  /-- They list the same container for each item. -/
  itemIndex : ∀ x, q'.itemIndex.get? x = q.itemIndex.get? x
  /-- They list the same joins under each container. -/
  adjacency : ∀ c, q'.joins.adjacency.lookup c = q.joins.adjacency.lookup c

variable {q q' : Query}

/-- **Tables, joins and indexes follow from the document.** -/
theorem Coherent.alike (h : q.Coherent) (h' : q'.Coherent)
    (hsaved : Document.ofQuery q' = Document.ofQuery q) : q.Alike q' := by
  have htables : q'.tables = q.tables := by
    rw [← h'.fromTables_eq, ← h.fromTables_eq]
    exact congrArg Document.tables hsaved
  have hjoins : q'.joins.joins = q.joins.joins := by
    rw [← h'.joins.inOrder_eq, ← h.joins.inOrder_eq]
    exact congrArg Document.joins hsaved
  have hcontainers : q'.containers = q.containers :=
    containers_eq htables (congrArg Document.constants hsaved)
  refine ⟨hsaved, htables, by rw [← h'.mapped, ← h.mapped, htables], hjoins,
    by rw [← h'.joins.mapped, ← h.joins.mapped, hjoins], fun x => ?_, fun c => ?_⟩
  · -- an item is listed with the container that holds it
    ext c
    rw [h'.housed.get?_iff, h.housed.get?_iff, hcontainers]
  · -- under a container the joins that touch it are listed
    rw [h'.joins.listed, h.joins.listed, hjoins]

namespace Alike

variable (h : q.Alike q')
include h

/-! ### What the document says -/

theorem constants : q'.constants = q.constants := congrArg Document.constants h.saved

theorem selection : q'.selection = q.selection := congrArg Document.selectedItems h.saved

theorem sortList : q'.sortList = q.sortList := congrArg Document.orderByItems h.saved

theorem globalWhere : q'.globalWhere = q.globalWhere := congrArg Document.globalWhere h.saved

theorem grouping : q'.grouping = q.grouping := congrArg Document.grouping h.saved

theorem userOverride : q'.userOverride = q.userOverride := congrArg Document.userOverride h.saved

/-! ### Looking things up -/

theorem containers : q'.containers = q.containers := containers_eq h.tables h.constants

theorem itemsInOrder : q'.itemsInOrder = q.itemsInOrder := by
  have htable : q'.table? = q.table? := by
    funext c
    rw [table?, table?, h.tables]
  rw [Query.itemsInOrder, Query.itemsInOrder, h.constants, fromTables, fromTables, h.tableIds,
    htable]

theorem container? : q'.container? = q.container? := by
  funext c
  rw [container?_eq_find?, container?_eq_find?, h.containers]

theorem containerOf? : q'.containerOf? = q.containerOf? := by
  funext x
  rw [Query.containerOf?, Query.containerOf?, h.itemIndex, h.container?]

theorem item? : q'.item? = q.item? := by
  funext x
  rw [Query.item?, Query.item?, h.containerOf?]

theorem join? : q'.joins.get? = q.joins.get? := by
  funext id
  rw [JoinRegistry.get?, JoinRegistry.get?, h.joins]

theorem joinsInOrder : q'.joins.inOrder = q.joins.inOrder := by
  rw [JoinRegistry.inOrder, JoinRegistry.inOrder, h.ids, h.join?]

theorem joinsAt (c : ContainerId) : q'.joins.joinsAt c = q.joins.joinsAt c := by
  rw [JoinRegistry.joinsAt, JoinRegistry.joinsAt, JoinRegistry.idsAt, JoinRegistry.idsAt,
    Adjacency.ids, Adjacency.ids, h.adjacency, h.join?]

theorem joinsBetween (c d : ContainerId) :
    q'.joins.joinsBetween c d = q.joins.joinsBetween c d := by
  rw [JoinRegistry.joinsBetween, JoinRegistry.joinsBetween, h.joinsAt]

theorem finishOrder : q'.finishOrder = q.finishOrder := by
  rw [Query.finishOrder, Query.finishOrder, VisualQuery.finishOrder, VisualQuery.finishOrder,
    h.tableIds, h.joinsInOrder]

theorem startsApart (earlier cs : List ContainerId) :
    VisualQuery.startsApart q'.joins earlier cs = VisualQuery.startsApart q.joins earlier cs := by
  induction cs generalizing earlier with
  | nil => rfl
  | cons c cs ih =>
    have hjoined : ∀ d, q'.joins.areJoined c d = q.joins.areJoined c d := by
      intro d
      rw [JoinRegistry.areJoined, JoinRegistry.areJoined, h.joinsBetween]
    rw [VisualQuery.startsApart, VisualQuery.startsApart, ih]
    simp only [hjoined]

/-- The search for cross joins has the same result. -/
theorem containsCrossJoins : q'.containsCrossJoins = q.containsCrossJoins := by
  have hof : ∀ r : Query,
      r.containsCrossJoins = VisualQuery.startsApart r.joins [] r.finishOrder := fun _ => rfl
  rw [hof, hof, h.finishOrder, h.startsApart]

/-! ### The statement -/

theorem selectedItems : q'.selectedItems = q.selectedItems := by
  rw [Query.selectedItems, Query.selectedItems, h.selection, h.item?]

theorem isAggregated : q'.isAggregated = q.isAggregated := by
  funext x
  rw [Query.isAggregated, Query.isAggregated, h.grouping]

theorem plainExpr : q'.plainExpr = q.plainExpr := by
  funext style x
  rw [Query.plainExpr, Query.plainExpr, qualifierTokens, qualifierTokens, qualifyingTable?,
    qualifyingTable?, h.containerOf?]

theorem selectedExpr : q'.selectedExpr = q.selectedExpr := by
  funext style x
  rw [Query.selectedExpr, Query.selectedExpr, itemExpr, itemExpr, h.plainExpr, h.isAggregated]

theorem member : q'.member = q.member := by
  funext style x
  rw [Query.member, Query.member, h.selectedExpr, h.isAggregated]

theorem condition? : q'.condition? = q.condition? := by
  funext style j
  rw [Query.condition?, Query.condition?, h.item?, h.plainExpr]

theorem joinedTable : q'.joinedTable = q.joinedTable := by
  funext style earlier previous c id
  rw [Query.joinedTable, Query.joinedTable, joinKind, joinKind, joinsBack, joinsBack, h.joinsAt,
    h.joinsBetween, h.condition?]

theorem joinedTables (style : Style) (earlier : List ContainerId) (previous : ContainerId)
    (rest : List ContainerId) :
    q'.joinedTables style earlier previous rest = q.joinedTables style earlier previous rest := by
  induction rest generalizing earlier previous with
  | nil => rfl
  | cons c rest ih =>
    rw [Query.joinedTables, Query.joinedTables, ih, h.container?, h.joinedTable]

theorem fromClause? (style : Style) : q'.fromClause? style = q.fromClause? style := by
  rw [Query.fromClause?, Query.fromClause?, h.finishOrder]
  cases q.finishOrder with
  | nil => rfl
  | cons c rest =>
    dsimp only
    rw [h.container?, h.joinedTables]

/-- **Queries that are alike have the same statement.** -/
theorem statement (style : Style) : q'.statement style = q.statement style := by
  rw [Query.statement, Query.statement, h.selectedItems, h.member, h.fromClause?, h.grouping]
  congr 1
  · rw [filters, filters, h.itemsInOrder, h.globalWhere, h.plainExpr]
  · rw [groupKeys, groupKeys, h.selectedItems, h.plainExpr]
  · rw [groupFilters, groupFilters, h.selectedItems, h.selectedExpr]
  · rw [sortKeys, sortKeys, h.sortList, h.item?, h.selectedExpr]

theorem generateStructural (style : Style) :
    q'.generateStructural style = q.generateStructural style := by
  rw [Query.generateStructural, Query.generateStructural, structuralTokens, structuralTokens,
    h.selection, h.statement]

theorem generate (style : Style) : q'.generate style = q.generate style := by
  rw [Query.generate, Query.generate, h.userOverride, h.generateStructural]

end Alike

end VisualQuery.Query
