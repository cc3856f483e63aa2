import VisualQuery.Container
import VisualQuery.DataSource
import VisualQuery.JoinGraph

/-!
# Queries

A query holds a map from identities to tables, the identities of the tables in the order of the
from-list, the constants container, the joins, the selection, the sort list and a few settings. As
in a registry of joins, the map is a list in which a table is looked up by its identity, and where
an order matters it is the one of the from-list (`Query.fromTables`). An index tells for each item
which container holds it; an item that the index does not list is unknown to the query. The last
three fields belong to the compound edit that is open, if any.
-/

namespace VisualQuery

/-- For each item the container that holds it. -/
abbrev ItemIndex := List (ItemId × ContainerId)

namespace ItemIndex

/-- The container listed for an item. -/
def get? (index : ItemIndex) (x : ItemId) : Option ContainerId := index.lookup x

/-- Lists a container for an item, in place of the one listed for it. -/
def set (x : ItemId) (c : ContainerId) : ItemIndex → ItemIndex
  | [] => [(x, c)]
  | (y, d) :: rest => if y = x then (x, c) :: rest else (y, d) :: set x c rest

/-- Takes an item off the index. -/
def erase (index : ItemIndex) (x : ItemId) : ItemIndex := index.filter fun entry => entry.1 ≠ x

/-- Lists a container for all its items. -/
def enter (index : ItemIndex) (c : Container) : ItemIndex :=
  c.items.foldl (fun index x => index.set x.id c.id) index

end ItemIndex

/-- A query. -/
structure Query where
  /-- The identity. -/
  id : QueryId
  /-- The name the user gave. -/
  name : String
  /-- The map from identities to tables. -/
  tables : List Container
  /-- The from-list: the identities of the tables in the order they were added. -/
  tableIds : List ContainerId
  /-- The constants container. -/
  constants : Container
  /-- For each item the container that holds it. -/
  itemIndex : ItemIndex
  /-- The selected items in the order of the selection. -/
  selection : List ItemId
  /-- The selected items that are sorted, the first sort key first. -/
  sortList : List ItemId
  /-- The joins. -/
  joins : JoinRegistry
  /-- A filter of the query as a whole. -/
  globalWhere : Option String
  /-- Whether the query groups its rows. -/
  grouping : Bool
  /-- How many rows are fetched at most. -/
  rowLimit : UInt64
  /-- How many rows are fetched at most while streaming. -/
  streamingRowLimit : UInt64
  /-- Whether rows are streamed. -/
  streaming : Bool
  /-- The zoom level of the user's screen. -/
  zoom : Int32
  /-- A text that replaces the generated statement. -/
  userOverride : Option String
  /-- The data source the query is attached to. -/
  source : Option DataSource
  /-- How many compound edits are open inside one another. -/
  compoundDepth : Nat
  /-- The message of the outermost one. -/
  compoundMessage : String
  /-- Whether a change was announced since the outermost one was started. -/
  pending : Bool

namespace Query

/-- A query without tables, on the given constants container. -/
def onConstants (id : QueryId) (name : String) (constants : Container) : Query :=
  { id, name, constants
    tables := [], tableIds := []
    itemIndex := ItemIndex.enter [] constants
    selection := [], sortList := [], joins := .empty, globalWhere := none, grouping := false
    rowLimit := 1000, streamingRowLimit := 1000, streaming := false, zoom := 0
    userOverride := none, source := none
    compoundDepth := 0, compoundMessage := "", pending := false }

/-- A new query. -/
def new (name : String) : Minting Query := do
  let id ← QueryId.mint
  let constants := Container.constants (← ContainerId.mint) (← BuiltinIds.mint)
  return onConstants id name constants

/-! ### Looking -/

/-- The table with an identity. -/
def table? (q : Query) (id : ContainerId) : Option Container := q.tables.find? (·.id = id)

/-- The tables in the order of the from-list. -/
def fromTables (q : Query) : List Container := q.tableIds.filterMap q.table?

/-- The constants container or the table with an identity. -/
def container? (q : Query) (id : ContainerId) : Option Container :=
  if id = q.constants.id then some q.constants else q.table? id

/-- The constants container and the tables. -/
def containers (q : Query) : List Container := q.constants :: q.tables

/-- The items of the constants container and of the tables in the order of the from-list. -/
def itemsInOrder (q : Query) : List Item := (q.constants :: q.fromTables).flatMap (·.items)

/-- The container that the index lists for an item. -/
def containerOf? (q : Query) (x : ItemId) : Option Container :=
  (q.itemIndex.get? x).bind q.container?

/-- The item with an identity. -/
def item? (q : Query) (x : ItemId) : Option Item := (q.containerOf? x).bind (·.item? x)

/-- The first table with a name or an alias. -/
def tableNamed? (q : Query) (name : String) : Option Container :=
  q.fromTables.find? fun c => c.name = name || c.alias? = some name

/-- The selected items in the order of the selection. -/
def selectedItems (q : Query) : List Item := q.selection.filterMap q.item?

/-- Whether some table has to be joined without any condition. -/
def containsCrossJoins (q : Query) : Bool := hasCrossJoin q.tableIds q.joins

/-- The order in which a statement names the tables. -/
def finishOrder (q : Query) : List ContainerId := VisualQuery.finishOrder q.tableIds q.joins

/-- Whether a compound edit is open. -/
def isInCompoundEdit (q : Query) : Bool := 0 < q.compoundDepth

/-! ### Consistency -/

/-- Whether a key of the sort list is selected and has a direction. -/
def isSortKey (q : Query) (x : ItemId) : Bool :=
  match q.item? x with
  | some item => item.selected && item.sortOrder.isOrdered
  | none => false

/-- Whether an end of a join is at a table that holds its item. -/
def holdsEnd (q : Query) (e : JoinEnd) : Bool :=
  ((q.table? e.container).map (·.contains e.item)).getD false

/-- Whether the lists of the query agree with the flags of its items, the sort list with the
selection, and the joins with the tables. -/
def isConsistent (q : Query) : Bool :=
  let items := (q.fromTables ++ [q.constants]).flatMap (·.items)
  items.all (fun x => q.selection.count x.id == if x.selected then 1 else 0) &&
    q.selection.length == items.countP (·.selected) &&
    q.sortList.all q.isSortKey && decide q.sortList.Nodup &&
    q.joins.isConsistent &&
    q.joins.inOrder.all fun j => q.holdsEnd j.left && q.holdsEnd j.right

end Query

end VisualQuery
