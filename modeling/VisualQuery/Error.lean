import VisualQuery.Item

/-!
# Why a change is refused

Every refusal has a cause, and each cause has one message.
-/

namespace VisualQuery

/-- Why a join does not fit the others or the from-list. -/
inductive TopologyError where
  /-- A join with the same identity is registered. -/
  | alreadyRegistered (join : JoinId)
  /-- Both ends are at one container. -/
  | selfJoin (join : JoinId) (container : ContainerId)
  /-- A join is listed under a container that neither of its ends is at. -/
  | touchesNeither (join : JoinId) (container : ContainerId)
  /-- An end is at a container that is not in the from-list. -/
  | foreignContainer (join : JoinId) (container : ContainerId)
  /-- An end is at an item that its container does not hold. -/
  | foreignItem (join : JoinId) (item : ItemId) (container : ContainerId)
deriving DecidableEq, Repr

/-- Why an argument is not accepted. -/
inductive ArgumentError where
  /-- A text does not name a sort direction. -/
  | sortOrder (cause : SortOrder.ParseError)
  /-- The text of a constant is blank. -/
  | blankConstant
  /-- The name of an item is blank. -/
  | blankItemName
  /-- An item is part of the query already. -/
  | itemOwned (item : ItemId)
  /-- An item is not part of the selection. -/
  | itemNotSelected (item : ItemId)
deriving DecidableEq, Repr

/-- Why a change to a query is refused. -/
inductive QueryError where
  /-- A join does not fit. -/
  | topology (cause : TopologyError)
  /-- An argument is not accepted. -/
  | invalidArgument (cause : ArgumentError)
  /-- A compound edit is ended that was not started. -/
  | unbalancedCompoundEdit
  /-- No such item. -/
  | unknownItem (id : ItemId)
  /-- No such container. -/
  | unknownContainer (id : ContainerId)
  /-- No such join. -/
  | unknownJoin (id : JoinId)
  /-- The constants container does not allow the change. -/
  | constantsContainer
  /-- The container is in the from-list already. -/
  | duplicateContainer (id : ContainerId)
deriving DecidableEq, Repr

/-- The message for a join that does not fit. -/
def TopologyError.message : TopologyError → String
  | .alreadyRegistered j => "join " ++ j.label ++ " is already registered"
  | .selfJoin j c => "join " ++ j.label ++ " connects container " ++ c.label ++ " to itself"
  | .touchesNeither j c =>
    "join " ++ j.label ++ " is registered under container " ++ c.label ++
      " but touches neither side of it"
  | .foreignContainer j c =>
    "join " ++ j.label ++ " references container " ++ c.label ++ " which is not in the from-list"
  | .foreignItem j x c =>
    "join " ++ j.label ++ " references item " ++ x.label ++ " which container " ++ c.label ++
      " does not own"

/-- The message for a text that does not name a sort direction. -/
def SortOrder.ParseError.message : SortOrder.ParseError → String
  | .empty => "sort direction must not be empty"
  | .unknown word => "unknown sort direction '" ++ word ++ "'"

/-- The message for an argument that is not accepted. -/
def ArgumentError.message : ArgumentError → String
  | .sortOrder cause => cause.message
  | .blankConstant => "constant text must not be empty"
  | .blankItemName => "item name must not be empty"
  | .itemOwned x => "item " ++ x.label ++ " already belongs to this query"
  | .itemNotSelected x => "item " ++ x.label ++ " is not selected"

namespace QueryError

/-- The message for a refused change. -/
def message : QueryError → String
  | .topology cause => "join topology violation: " ++ cause.message
  | .invalidArgument cause => "invalid argument: " ++ cause.message
  | .unbalancedCompoundEdit =>
    "end_compound_edit called without a matching start_compound_edit"
  | .unknownItem id => "unknown item: " ++ id.label
  | .unknownContainer id => "unknown container: " ++ id.label
  | .unknownJoin id => "unknown join: " ++ id.label
  | .constantsContainer => "operation not allowed on the constants container"
  | .duplicateContainer id => "container already in the from-list: " ++ id.label

/-- Whether the cause is a join that does not fit. -/
def isTopology : QueryError → Bool
  | .topology _ => true
  | _ => false

end QueryError

end VisualQuery
