import VisualQuery.Json.Reader
import VisualQuery.Query.Duplicate

/-!
# Query documents

A document holds what is saved of a query: everything but the data source, the listeners and an open
compound edit. `Document.ofQuery` takes it off a query; `Document.load` makes a query of it, after
checking that the containers, items, joins and lists fit together. Loading makes the `selected`
flags follow the selection and lets the registry even out the outer flags.
-/

namespace VisualQuery

/-- What is saved of a query. -/
structure Document where
  /-- The identity of the query. -/
  id : QueryId
  /-- Its name. -/
  name : String
  /-- The constants container. -/
  constants : Container
  /-- The tables in the order of the from-list. -/
  tables : List Container
  /-- The joins in the order they were registered. -/
  joins : List Join
  /-- The selected items. -/
  selectedItems : List ItemId
  /-- The items of the sort list. -/
  orderByItems : List ItemId
  /-- The filter of the query as a whole. -/
  globalWhere : Option String
  /-- Whether the query groups its rows. -/
  grouping : Bool
  /-- How many rows are fetched at most. -/
  rowLimit : UInt64
  /-- How many rows are fetched at most while streaming. -/
  streamingRowLimit : UInt64
  /-- Whether rows are streamed. -/
  streaming : Bool
  /-- The zoom level of the user's screen. -/
  zoom : Int32
  /-- The text that replaces the generated statement. -/
  userOverride : Option String

/-- Why a document names something that is not there. -/
inductive Dangling where
  /-- An end of a join is at a table or an item that is not there. -/
  | joinEnd (join : JoinId) (item : ItemId) (container : ContainerId)
  /-- A selected item is not there. -/
  | selected (item : ItemId)
  /-- An item of the sort list is not there. -/
  | sortKey (item : ItemId)
deriving DecidableEq, Repr

/-- Why the parts of a document do not fit together. -/
inductive Misfit where
  /-- The constants container is of another kind. -/
  | notConstants (container : ContainerId)
  /-- A table is of the kind of the constants container. -/
  | constantsAsTable (container : ContainerId)
  /-- Two tables have the same identity. -/
  | tableTwice (container : ContainerId)
  /-- Two items have the same identity. -/
  | itemsNotUnique
  /-- An item is selected twice. -/
  | selectedTwice (item : ItemId)
  /-- An item of the sort list is not selected, has no direction, or is listed twice. -/
  | sortKey (item : ItemId)
deriving DecidableEq, Repr

/-- Why a document is not accepted. -/
inductive DocumentError where
  /-- The text cannot be read. -/
  | unreadable (fault : Json.Fault)
  /-- Something that is named is not there. -/
  | dangling (cause : Dangling)
  /-- The parts do not fit together. -/
  | invalid (cause : Misfit)
  /-- A join does not fit the others. -/
  | query (cause : QueryError)
deriving DecidableEq, Repr

/-- What a dangling reference is. -/
def Dangling.detail : Dangling → String
  | .joinEnd j x c =>
    "join " ++ j.label ++ " references item " ++ x.label ++ " in container " ++ c.label
  | .selected x => "selected item " ++ x.label ++ " does not exist"
  | .sortKey x => "sort item " ++ x.label ++ " does not exist"

/-- What does not fit together. -/
def Misfit.detail : Misfit → String
  | .notConstants c => "container " ++ c.label ++ " is not a constants container"
  | .constantsAsTable c => "constants container " ++ c.label ++ " listed as a table"
  | .tableTwice c => "container " ++ c.label ++ " listed twice"
  | .itemsNotUnique => "item identifiers are not unique"
  | .selectedTwice x => "item " ++ x.label ++ " selected twice"
  | .sortKey x => "sort item " ++ x.label ++ " must be selected, ordered and listed once"

/-- The message for a document that is not accepted. -/
def DocumentError.message : DocumentError → String
  | .unreadable fault => "malformed query document: " ++ fault.message
  | .dangling cause => "dangling reference in query document: " ++ cause.detail
  | .invalid cause => "invalid query document: " ++ cause.detail
  | .query cause => cause.message

/-- Whether a loaded query keeps the identities of the document. -/
inductive IdentityMode where
  /-- It keeps them. -/
  | preserve
  /-- It gets fresh ones. -/
  | regenerate
deriving DecidableEq, Repr

namespace Document

/-- What is saved of a query. -/
def ofQuery (q : Query) : Document :=
  { id := q.id, name := q.name, constants := q.constants, tables := q.fromTables
    joins := q.joins.inOrder, selectedItems := q.selection, orderByItems := q.sortList
    globalWhere := q.globalWhere, grouping := q.grouping, rowLimit := q.rowLimit
    streamingRowLimit := q.streamingRowLimit, streaming := q.streaming, zoom := q.zoom
    userOverride := q.userOverride }

/-! ### Loading -/

/-- Checks that the tables are tables and that no two of them have the same identity. -/
def checkTables (seen : List ContainerId) : List Container → Except Misfit Unit
  | [] => .ok ()
  | c :: rest =>
    if c.isConstants then .error (.constantsAsTable c.id)
    else if c.id ∈ seen then .error (.tableTwice c.id)
    else checkTables (c.id :: seen) rest

/-- The query with the containers of the document only. -/
def bare (d : Document) : Query :=
  Query.reindex { Query.onConstants d.id d.name d.constants with
    tables := d.tables
    tableIds := d.tables.map fun c => c.id }

/-- How many items the containers of a query hold. -/
def itemCount (q : Query) : Nat := q.itemsInOrder.length

/-- Checks that both ends of a join are at tables that hold their items. -/
def checkEnds (q : Query) (j : Join) : Except Dangling Unit := do
  for e in [j.left, j.right] do
    if !q.holdsEnd e then throw (.joinEnd j.id e.item e.container)

/-- Registers the joins of a document one after the other. -/
def loadJoins (q : Query) (into : JoinRegistry) : List Join → Except DocumentError JoinRegistry
  | [] => .ok into
  | j :: rest =>
    match checkEnds q j with
    | .error cause => .error (.dangling cause)
    | .ok () =>
      match into.add j with
      | .error cause => .error (.query (.topology cause))
      | .ok (_, into) => loadJoins q into rest

/-- Checks that the selected items are there and that none is selected twice. -/
def checkSelection (q : Query) (seen : List ItemId) : List ItemId → Except DocumentError Unit
  | [] => .ok ()
  | x :: rest =>
    if (q.item? x).isNone then .error (.dangling (.selected x))
    else if x ∈ seen then .error (.invalid (.selectedTwice x))
    else checkSelection q (x :: seen) rest

/-- Checks that the items of the sort list are there, selected and sorted, and that none is listed
twice. -/
def checkSortList (q : Query) (selection seen : List ItemId) :
    List ItemId → Except DocumentError Unit
  | [] => .ok ()
  | x :: rest =>
    match q.item? x with
    | none => .error (.dangling (.sortKey x))
    | some item =>
      -- the flags of the items do not count here, for they will follow the selection
      if x ∈ selection ∧ item.sortOrder.isOrdered ∧ x ∉ seen then
        checkSortList q selection (x :: seen) rest
      else .error (.invalid (.sortKey x))

/-- Sets the flags of the items of a container by a selection. -/
def flagSelected (selection : List ItemId) (c : Container) : Container :=
  { c with items := c.items.map fun x => { x with selected := decide (x.id ∈ selection) } }

/-- The query of a document, under the identities of the document. -/
def toQuery (d : Document) : Except DocumentError Query := do
  if !d.constants.isConstants then throw (.invalid (.notConstants d.constants.id))
  match checkTables [] d.tables with
  | .error cause => throw (.invalid cause)
  | .ok () =>
    let q := d.bare
    -- an identity that stands twice is listed once
    if itemCount q ≠ q.itemIndex.length then throw (.invalid .itemsNotUnique)
    let joins ← loadJoins q .empty d.joins
    checkSelection q [] d.selectedItems
    checkSortList q d.selectedItems [] d.orderByItems
    return { q with
      constants := flagSelected d.selectedItems q.constants
      tables := q.tables.map (flagSelected d.selectedItems)
      joins
      selection := d.selectedItems, sortList := d.orderByItems
      globalWhere := Text.nonBlank d.globalWhere, grouping := d.grouping, rowLimit := d.rowLimit
      streamingRowLimit := d.streamingRowLimit, streaming := d.streaming, zoom := d.zoom
      userOverride := d.userOverride }

/-- The query of a document, under its identities or under fresh ones. -/
def load (mode : IdentityMode) (d : Document) : Minting (Except DocumentError Query) := do
  match d.toQuery, mode with
  | .error e, _ => return .error e
  | .ok q, .preserve => return .ok q
  | .ok q, .regenerate => return .ok (← q.duplicate)

end Document

end VisualQuery
