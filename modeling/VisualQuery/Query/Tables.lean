import VisualQuery.Query.Joins

/-!
# Changes to containers

Tables are added to the from-list and removed from it. A removed table takes its items out of the
selection and the joins at it along. The alias and the position can be set for the constants
container as well.
-/

namespace VisualQuery.Query

open Change

/-- Adds a table to the end of the from-list. Its selected items join the selection. -/
def addTable (c : Container) : Change ContainerId := do
  if c.isConstants then refuse .constantsContainer
  let q ← get
  if (q.table? c.id).isSome ∨ c.id = q.constants.id then refuse (.duplicateContainer c.id)
  match c.items.find? fun x => (q.itemIndex.get? x.id).isSome with
  | some x => refuse (.invalidArgument (.itemOwned x.id))
  | none =>
    modify fun q =>
      { q with
        itemIndex := q.itemIndex.enter c
        tables := q.tables ++ [c.adopt]
        tableIds := q.tableIds ++ [c.id] }
    modify fun q => c.items.foldl enlist q
    announce (.containerAdded c.id)
    return c.id

/-- Takes items out of the selection, one after the other. -/
def deselectAll : List ItemId → Change Unit
  | [] => pure ()
  | id :: ids => do
    setItemSelected id false
    deselectAll ids

/-- Takes a table out of the selection, the joins and the from-list. -/
def detachTable (id : ContainerId) : Change Container := do
  let table ← need (.unknownContainer id) ((← get).table? id)
  deselectAll ((table.items.filter (·.selected)).map (·.id))
  let (removed, joins) := (← get).joins.removeContainer id
  modify fun q => { q with joins }
  announceAll (removed.map .joinRemoved)
  -- none of its items is selected any more
  let table ← need (.unknownContainer id) ((← get).table? id)
  modify fun q =>
    { q with
      tables := q.tables.filter (·.id ≠ id)
      tableIds := q.tableIds.filter (· ≠ id)
      itemIndex := table.items.foldl (fun index x => index.erase x.id) q.itemIndex }
  announce (.containerRemoved id)
  return table

/-- Removes a table. -/
def removeTable (id : ContainerId) : Change Container := do
  if id = (← get).constants.id then refuse .constantsContainer
  let table ← need (.unknownContainer id) ((← get).table? id)
  asCompoundEdit ("Removing table " ++ table.name) (detachTable id)

/-- Sets a property of a container, unless it is the same already. -/
def setContainerProperty {β : Type} (id : ContainerId) (property : Property)
    (read : Container → β) (same : β → β → Bool) (write : β → Container → Container)
    (show' : β → PropertyValue) (new : β) : Change Unit := do
  let old := read (← needContainer id)
  if same old new then return
  modify fun q => q.modifyContainer id (write new)
  announce (.containerChanged ⟨id, property, show' old, show' new⟩)

/-- Sets the alias of a container; a blank one is none. -/
def setContainerAlias (id : ContainerId) (text : Option String) : Change Unit :=
  setContainerProperty id .aliasText (·.aliasText) (fun old new => decide (old = new))
    (fun aliasText c => { c with aliasText }) .text (Text.nonBlank text)

/-- Sets the position of a container. -/
def setContainerPosition (id : ContainerId) (position : Position) : Change Unit :=
  -- positions are free-form values, so equal ones may be written differently
  setContainerProperty id .position (·.position) Position.same
    (fun position c => { c with position }) (fun p => .text (some p.value.compact)) position

end VisualQuery.Query
