import VisualQuery.Join
import VisualQuery.Item

/-!
# Events

Every change of a query is announced by an event that says what changed. An event about a property
carries the value before and the value after. Three events are markers: they stand around a
compound edit and announce no change themselves.
-/

namespace VisualQuery

/-- A property whose changes are announced. -/
inductive Property where
  /-- The name of an item, a join or the query. -/
  | name
  /-- The alias of an item or a container. -/
  | aliasText
  /-- The filter of an item. -/
  | whereFragment
  /-- How an item takes part in grouping. -/
  | groupFunction
  /-- The filter of an item on groups. -/
  | having
  /-- The width of an item's column. -/
  | columnWidth
  /-- Whether an item is selected. -/
  | selected
  /-- The direction an item is sorted in. -/
  | sortOrder
  /-- The position of a container. -/
  | position
  /-- The outer flag on the left side of a join. -/
  | leftOuter
  /-- The outer flag on the right side of a join. -/
  | rightOuter
  /-- The comparator of a join. -/
  | comparator
  /-- The filter of the query as a whole. -/
  | globalWhere
  /-- Whether the query groups its rows. -/
  | groupingEnabled
  /-- How many rows are fetched at most. -/
  | rowLimit
  /-- How many rows are fetched at most while streaming. -/
  | streamingRowLimit
  /-- Whether rows are streamed. -/
  | streaming
  /-- The zoom level of the user's screen. -/
  | zoomLevel
  /-- The text that replaces the generated statement. -/
  | userOverride
deriving DecidableEq, Repr

/-- The name of a property in an event. -/
def Property.word : Property → String
  | .name => "name"
  | .aliasText => "alias"
  | .whereFragment => "where_fragment"
  | .groupFunction => "group_function"
  | .having => "having"
  | .columnWidth => "column_width"
  | .selected => "selected"
  | .sortOrder => "sort_order"
  | .position => "position"
  | .leftOuter => "left_outer"
  | .rightOuter => "right_outer"
  | .comparator => "comparator"
  | .globalWhere => "global_where"
  | .groupingEnabled => "grouping_enabled"
  | .rowLimit => "row_limit"
  | .streamingRowLimit => "streaming_row_limit"
  | .streaming => "streaming"
  | .zoomLevel => "zoom_level"
  | .userOverride => "user_override_sql"

/-- The value of a property. -/
inductive PropertyValue where
  /-- An optional text. -/
  | text (value : Option String)
  /-- A flag. -/
  | bool (value : Bool)
  /-- A whole number, if there is one and it fits a signed word of 64 bits. -/
  | integer (value : Option Int)
  /-- A way to take part in grouping. -/
  | group (value : GroupFunction)
  /-- A sort direction. -/
  | sort (value : SortOrder)
  /-- A comparator. -/
  | comparator (value : Comparator)
deriving DecidableEq, Repr

/-- A natural number as the value of a property; one past the signed words of 64 bits is left
out. -/
def PropertyValue.ofNat (n : Nat) : PropertyValue :=
  .integer (if n < 0x8000000000000000 then some n else none)

/-- A change of a property. -/
structure PropertyChange (ι : Type) where
  /-- Whose property it is. -/
  target : ι
  /-- Which property. -/
  property : Property
  /-- The value before. -/
  old : PropertyValue
  /-- The value after. -/
  new : PropertyValue
deriving DecidableEq, Repr

/-- What is announced to the listeners of a query. -/
inductive Event where
  /-- A join was registered. -/
  | joinAdded (id : JoinId)
  /-- A join was removed. -/
  | joinRemoved (join : Join)
  /-- An item was added to a container. -/
  | itemAdded (container : ContainerId) (item : ItemId)
  /-- An item was removed from a container. -/
  | itemRemoved (container : ContainerId) (item : ItemId)
  /-- An item was moved to a place in the selection. -/
  | itemOrderChanged (item : ItemId) (index : Nat)
  /-- A table was added to the from-list. -/
  | containerAdded (id : ContainerId)
  /-- A table was removed from the from-list. -/
  | containerRemoved (id : ContainerId)
  /-- A property of an item changed. -/
  | itemChanged (change : PropertyChange ItemId)
  /-- A property of a join changed. -/
  | joinChanged (change : PropertyChange JoinId)
  /-- A property of a container changed. -/
  | containerChanged (change : PropertyChange ContainerId)
  /-- A property of the query changed. -/
  | queryChanged (change : PropertyChange QueryId)
  /-- The outermost compound edit was started. -/
  | compoundStarted (message : String)
  /-- The outermost compound edit was ended. -/
  | compoundEnded (message : String)
  /-- The changes of a compound edit are complete, so the query may be run. -/
  | canExecute
deriving DecidableEq, Repr

/-- The kinds of events. -/
inductive EventKind where
  /-- A join was registered. -/
  | joinAdded
  /-- A join was removed. -/
  | joinRemoved
  /-- An item was added. -/
  | itemAdded
  /-- An item was removed. -/
  | itemRemoved
  /-- An item was moved in the selection. -/
  | itemOrderChanged
  /-- A table was added. -/
  | containerAdded
  /-- A table was removed. -/
  | containerRemoved
  /-- A property of an item changed. -/
  | itemChanged
  /-- A property of a join changed. -/
  | joinChanged
  /-- A property of a container changed. -/
  | containerChanged
  /-- A property of the query changed. -/
  | queryChanged
  /-- A compound edit was started. -/
  | compoundStarted
  /-- A compound edit was ended. -/
  | compoundEnded
  /-- The query may be run. -/
  | canExecute
deriving DecidableEq, Repr

namespace EventKind

/-- All kinds of events. -/
def all : List EventKind :=
  [.joinAdded, .joinRemoved, .itemAdded, .itemRemoved, .itemOrderChanged, .containerAdded,
    .containerRemoved, .itemChanged, .joinChanged, .containerChanged, .queryChanged,
    .compoundStarted, .compoundEnded, .canExecute]

/-- The name of a kind of events. -/
def word : EventKind → String
  | .joinAdded => "join_added"
  | .joinRemoved => "join_removed"
  | .itemAdded => "item_added"
  | .itemRemoved => "item_removed"
  | .itemOrderChanged => "item_order_changed"
  | .containerAdded => "container_added"
  | .containerRemoved => "container_removed"
  | .itemChanged => "item_property_changed"
  | .joinChanged => "join_property_changed"
  | .containerChanged => "container_property_changed"
  | .queryChanged => "query_property_changed"
  | .compoundStarted => "compound_edit_started"
  | .compoundEnded => "compound_edit_ended"
  | .canExecute => "can_execute_query"

end EventKind

namespace Event

/-- The kind of an event. -/
def kind : Event → EventKind
  | .joinAdded .. => .joinAdded
  | .joinRemoved .. => .joinRemoved
  | .itemAdded .. => .itemAdded
  | .itemRemoved .. => .itemRemoved
  | .itemOrderChanged .. => .itemOrderChanged
  | .containerAdded .. => .containerAdded
  | .containerRemoved .. => .containerRemoved
  | .itemChanged .. => .itemChanged
  | .joinChanged .. => .joinChanged
  | .containerChanged .. => .containerChanged
  | .queryChanged .. => .queryChanged
  | .compoundStarted .. => .compoundStarted
  | .compoundEnded .. => .compoundEnded
  | .canExecute => .canExecute

/-- Whether an event stands around a compound edit and announces no change itself. -/
def isMarker : Event → Bool
  | .compoundStarted .. | .compoundEnded .. | .canExecute => true
  | _ => false

end Event

end VisualQuery
