import VisualQuery.Query.Items

/-!
# Changes to joins

A join is added between two tables of the from-list, at items that they hold. Its outer flags may
change on the way in, since all joins at a table agree on its flag; that is not announced. Changing
a flag of a join later changes it for all joins at the table, and each change is announced.
-/

namespace VisualQuery.Query

open Change

/-- Checks that an end of a join is at a table of the from-list that holds its item. -/
def checkEnd (id : JoinId) (e : JoinEnd) : Change Unit := do
  let q ← get
  if e.container = q.constants.id then refuse .constantsContainer
  let table ← need (.topology (.foreignContainer id e.container)) (q.table? e.container)
  if !table.contains e.item then refuse (.topology (.foreignItem id e.item e.container))

/-- Adds a join. -/
def addJoin (j : Join) : Change JoinId := do
  checkEnd j.id j.left
  checkEnd j.id j.right
  match (← get).joins.add j with
  | .error cause => refuse (.topology cause)
  | .ok (_, joins) =>
    modify fun q => { q with joins }
    announce (.joinAdded j.id)
    return j.id

/-- Joins two items on equality, under a fresh identity. -/
def joinItems (id : JoinId) (left right : ItemId) : Change JoinId := do
  let leftContainer ← need (.unknownItem left) ((← get).itemIndex.get? left)
  let rightContainer ← need (.unknownItem right) ((← get).itemIndex.get? right)
  addJoin ⟨id, ⟨leftContainer, left, false⟩, ⟨rightContainer, right, false⟩, .eq, none⟩

/-- Removes a join. -/
def removeJoin (id : JoinId) : Change Join := do
  let (j, joins) ← need (.unknownJoin id) ((← get).joins.remove? id)
  modify fun q => { q with joins }
  announce (.joinRemoved j)
  return j

/-- The event for a changed outer flag. -/
def outerEvent (change : OuterChange) : Event :=
  let property :=
    match change.side with
    | .left => .leftOuter
    | .right => .rightOuter
  .joinChanged ⟨change.join, property, .bool change.old, .bool change.new⟩

/-- Sets the outer flag on one side of a join, and with it those of all joins at the table
there. -/
def setJoinOuter (id : JoinId) (side : Side) (outer : Bool) : Change Unit := do
  match (← get).joins.setOuter id side outer with
  | .error e => refuse e
  | .ok (changes, joins) =>
    modify fun q => { q with joins }
    announceAll (changes.map outerEvent)

/-- Sets a property of a join, unless it has the value already. -/
def setJoinProperty {β : Type} [DecidableEq β] (id : JoinId) (property : Property)
    (read : Join → β) (write : β → Join → Join) (show' : β → PropertyValue) (new : β) :
    Change Unit := do
  let j ← need (.unknownJoin id) ((← get).joins.get? id)
  let old := read j
  if old = new then return
  modify fun q => { q with joins := q.joins.modify id (write new) }
  announce (.joinChanged ⟨id, property, show' old, show' new⟩)

/-- Sets the comparator of a join. -/
def setJoinComparator (id : JoinId) (comparator : Comparator) : Change Unit :=
  setJoinProperty id .comparator (·.comparator) (fun comparator j => { j with comparator })
    .comparator comparator

/-- Sets the name of a join; a blank one is none. -/
def setJoinName (id : JoinId) (name : Option String) : Change Unit :=
  setJoinProperty id .name (·.name) (fun name j => { j with name }) .text (Text.nonBlank name)

end VisualQuery.Query
