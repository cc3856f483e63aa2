import VisualQuery.Query.Settings

/-!
# Edits

An edit is a change with its arguments, as a value: a sequence of edits is a history of a query.
Where a change needs fresh identities they are part of the edit.
-/

namespace VisualQuery

/-- A change with its arguments. -/
inductive Edit where
  /-- Starts a compound edit. -/
  | startCompoundEdit (message : String)
  /-- Ends a compound edit. -/
  | endCompoundEdit
  /-- Adds a table. -/
  | addTable (table : Container)
  /-- Removes a table. -/
  | removeTable (id : ContainerId)
  /-- Sets the alias of a container. -/
  | setContainerAlias (id : ContainerId) (text : Option String)
  /-- Sets the position of a container. -/
  | setContainerPosition (id : ContainerId) (position : Position)
  /-- Adds an item at the end of a container. -/
  | addItem (container : ContainerId) (item : Item)
  /-- Adds an item to a container at a place. -/
  | insertItem (container : ContainerId) (index : Nat) (item : Item)
  /-- Adds a constant under a fresh identity. -/
  | addConstant (id : ItemId) (text : String)
  /-- Removes an item. -/
  | removeItem (id : ItemId)
  /-- Selects an item or takes it out of the selection. -/
  | setItemSelected (id : ItemId) (selected : Bool)
  /-- Sets the direction an item is sorted in. -/
  | setSortOrder (id : ItemId) (order : SortOrder)
  /-- Moves an item in the selection. -/
  | moveSelectedItem (id : ItemId) (index : Nat)
  /-- Renames an item. -/
  | renameItem (id : ItemId) (name : String)
  /-- Sets the alias of an item. -/
  | setItemAlias (id : ItemId) (text : Option String)
  /-- Sets the filter of an item. -/
  | setItemFilter (id : ItemId) (text : Option String)
  /-- Sets the filter of an item on groups. -/
  | setItemHaving (id : ItemId) (text : Option String)
  /-- Sets how an item takes part in grouping. -/
  | setGroupFunction (id : ItemId) (f : GroupFunction)
  /-- Sets the width of an item's column. -/
  | setColumnWidth (id : ItemId) (width : Option UInt32)
  /-- Adds a join. -/
  | addJoin (join : Join)
  /-- Joins two items under a fresh identity. -/
  | joinItems (id : JoinId) (left right : ItemId)
  /-- Removes a join. -/
  | removeJoin (id : JoinId)
  /-- Sets the outer flag on one side of a join. -/
  | setJoinOuter (id : JoinId) (side : Side) (outer : Bool)
  /-- Sets the comparator of a join. -/
  | setJoinComparator (id : JoinId) (comparator : Comparator)
  /-- Sets the name of a join. -/
  | setJoinName (id : JoinId) (name : Option String)
  /-- Sets the name of the query. -/
  | setName (name : String)
  /-- Sets the filter of the query as a whole. -/
  | setGlobalWhere (text : Option String)
  /-- Sets whether the query groups its rows. -/
  | setGrouping (on : Bool)
  /-- Sets how many rows are fetched at most. -/
  | setRowLimit (limit : UInt64)
  /-- Sets how many rows are fetched at most while streaming. -/
  | setStreamingRowLimit (limit : UInt64)
  /-- Sets whether rows are streamed. -/
  | setStreaming (on : Bool)
  /-- Sets the zoom level. -/
  | setZoom (zoom : Int32)
  /-- Attaches the query to a data source, or detaches it. -/
  | setSource (source : Option DataSource)
  /-- Replaces the statement by a text. -/
  | defineOverride (text : String)
  /-- Removes the text that replaces the statement. -/
  | clearOverride
  /-- Removes the tables, restores the constants under fresh identities and clears the settings
  that shape the statement. -/
  | reset (ids : BuiltinIds)

/-- What an edit returns. -/
inductive Reply where
  /-- Nothing. -/
  | nothing
  /-- The identity of the container that was added. -/
  | containerId (id : ContainerId)
  /-- The container that was removed. -/
  | container (c : Container)
  /-- The identity of the item that was added. -/
  | itemId (id : ItemId)
  /-- The item that was removed. -/
  | item (x : Item)
  /-- The identity of the join that was added. -/
  | joinId (id : JoinId)
  /-- The join that was removed. -/
  | join (j : Join)

namespace Edit

/-- The change an edit stands for. -/
def change : Edit → Change Reply
  | .startCompoundEdit message => (fun _ => .nothing) <$> Query.startCompoundEdit message
  | .endCompoundEdit => (fun _ => .nothing) <$> Query.endCompoundEdit
  | .addTable table => .containerId <$> Query.addTable table
  | .removeTable id => .container <$> Query.removeTable id
  | .setContainerAlias id text => (fun _ => .nothing) <$> Query.setContainerAlias id text
  | .setContainerPosition id position =>
    (fun _ => .nothing) <$> Query.setContainerPosition id position
  | .addItem container item => .itemId <$> Query.addItem container item
  | .insertItem container index item => .itemId <$> Query.insertItem container index item
  | .addConstant id text => .itemId <$> Query.addConstant id text
  | .removeItem id => .item <$> Query.removeItem id
  | .setItemSelected id selected => (fun _ => .nothing) <$> Query.setItemSelected id selected
  | .setSortOrder id order => (fun _ => .nothing) <$> Query.setSortOrder id order
  | .moveSelectedItem id index => (fun _ => .nothing) <$> Query.moveSelectedItem id index
  | .renameItem id name => (fun _ => .nothing) <$> Query.renameItem id name
  | .setItemAlias id text => (fun _ => .nothing) <$> Query.setItemAlias id text
  | .setItemFilter id text => (fun _ => .nothing) <$> Query.setItemFilter id text
  | .setItemHaving id text => (fun _ => .nothing) <$> Query.setItemHaving id text
  | .setGroupFunction id f => (fun _ => .nothing) <$> Query.setGroupFunction id f
  | .setColumnWidth id width => (fun _ => .nothing) <$> Query.setColumnWidth id width
  | .addJoin join => .joinId <$> Query.addJoin join
  | .joinItems id left right => .joinId <$> Query.joinItems id left right
  | .removeJoin id => .join <$> Query.removeJoin id
  | .setJoinOuter id side outer => (fun _ => .nothing) <$> Query.setJoinOuter id side outer
  | .setJoinComparator id comparator =>
    (fun _ => .nothing) <$> Query.setJoinComparator id comparator
  | .setJoinName id name => (fun _ => .nothing) <$> Query.setJoinName id name
  | .setName name => (fun _ => .nothing) <$> Query.setName name
  | .setGlobalWhere text => (fun _ => .nothing) <$> Query.setGlobalWhere text
  | .setGrouping on => (fun _ => .nothing) <$> Query.setGrouping on
  | .setRowLimit limit => (fun _ => .nothing) <$> Query.setRowLimit limit
  | .setStreamingRowLimit limit => (fun _ => .nothing) <$> Query.setStreamingRowLimit limit
  | .setStreaming on => (fun _ => .nothing) <$> Query.setStreaming on
  | .setZoom zoom => (fun _ => .nothing) <$> Query.setZoom zoom
  | .setSource source => (fun _ => .nothing) <$> Query.setSource source
  | .defineOverride text => (fun _ => .nothing) <$> Query.defineOverride text
  | .clearOverride => (fun _ => .nothing) <$> Query.clearOverride
  | .reset ids => (fun _ => .nothing) <$> Query.reset ids

end Edit

end VisualQuery
