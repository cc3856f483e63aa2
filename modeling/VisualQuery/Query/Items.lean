import VisualQuery.Query.Compound

/-!
# Changes to items

Items are added to containers and removed from them, selected and sorted, and their properties are
set. A property that has the value already is left alone, and nothing is announced. A removed item
takes the joins at it along.
-/

namespace VisualQuery.Query

open Change

/-! ### Finding and changing one item -/

/-- Changes the container with an identity: the constants container or a table. -/
def modifyContainer (q : Query) (id : ContainerId) (f : Container → Container) : Query :=
  if id = q.constants.id then { q with constants := f q.constants }
  else { q with tables := q.tables.map fun c => if c.id = id then f c else c }

/-- The container with an identity. -/
def needContainer (id : ContainerId) : Change Container := do
  need (.unknownContainer id) ((← get).container? id)

/-- The container that holds an item, and the item. -/
def needItem (id : ItemId) : Change (ContainerId × Item) := do
  let c ← need (.unknownItem id) ((← get).itemIndex.get? id)
  let container ← needContainer c
  let item ← need (.unknownItem id) (container.item? id)
  return (c, item)

/-- Sets a property of an item, unless it has the value already. -/
def setItemProperty {β : Type} [DecidableEq β] (id : ItemId) (property : Property)
    (read : Item → β) (write : β → Item → Item) (show' : β → PropertyValue) (new : β) :
    Change Unit := do
  let (c, item) ← needItem id
  let old := read item
  if old = new then return
  modify fun q => q.modifyContainer c (·.modify id (write new))
  announce (.itemChanged ⟨id, property, show' old, show' new⟩)

/-! ### Adding -/

/-- Takes a selected item into the selection, and into the sort list if it has a direction. -/
def enlist (q : Query) (x : Item) : Query :=
  if x.selected then
    { q with
      selection := q.selection ++ [x.id]
      sortList := if x.sortOrder.isOrdered then q.sortList ++ [x.id] else q.sortList }
  else q

/-- Adds an item to a container at a place, or at the end if the place lies behind it. -/
def insertItem (c : ContainerId) (index : Nat) (x : Item) : Change ItemId := do
  if ((← get).itemIndex.get? x.id).isSome then refuse (.invalidArgument (.itemOwned x.id))
  let _ ← needContainer c
  modify fun q =>
    { q.modifyContainer c (·.insert index x) with itemIndex := q.itemIndex.set x.id c }
  modify fun q => q.enlist x
  announce (.itemAdded c x.id)
  return x.id

/-- Adds an item to a container at the end. -/
def addItem (c : ContainerId) (x : Item) : Change ItemId := do
  let container? := (← get).container? c
  -- what an unknown container is refused with is left to `insertItem`
  insertItem c ((container?.map (·.items.length)).getD 0) x

/-- Adds a constant under a fresh identity; blanks around its text are left out. -/
def addConstant (id : ItemId) (text : String) : Change ItemId := do
  if Text.isBlankText text then refuse (.invalidArgument .blankConstant)
  addItem (← get).constants.id (.constant id (Text.trim text))

/-! ### Selecting and sorting -/

/-- Takes an item out of the selection and the sort list. -/
def delist (q : Query) (id : ItemId) : Query :=
  { q with
    selection := q.selection.filter (· ≠ id)
    sortList := q.sortList.filter (· ≠ id) }

/-- Selects an item or takes it out of the selection. -/
def setItemSelected (id : ItemId) (selected : Bool) : Change Unit := do
  let (c, item) ← needItem id
  if item.selected = selected then return
  -- an item that keeps its direction comes back as the last sort key
  modify fun q => q.modifyContainer c (·.modify id fun x => { x with selected })
  modify fun q => if selected then q.enlist { item with selected } else q.delist id
  announce (.itemChanged ⟨id, .selected, .bool !selected, .bool selected⟩)

/-- Sets the direction an item is sorted in. The item becomes the last sort key, if it is selected
and has a direction. -/
def setSortOrder (id : ItemId) (order : SortOrder) : Change Unit := do
  let (c, item) ← needItem id
  if item.sortOrder = order then return
  modify fun q => q.modifyContainer c (·.modify id fun x => { x with sortOrder := order })
  if item.selected then
    modify fun q =>
      let rest := q.sortList.filter (· ≠ id)
      { q with sortList := if order.isOrdered then rest ++ [id] else rest }
  announce (.itemChanged ⟨id, .sortOrder, .sort item.sortOrder, .sort order⟩)

/-- Moves an item to a place in the selection, or to the end if the place lies behind it. -/
def moveSelectedItem (id : ItemId) (index : Nat) : Change Unit := do
  let q ← get
  match q.selection.idxOf? id with
  | none => refuse (.invalidArgument (.itemNotSelected id))
  | some at' =>
    let rest := q.selection.eraseIdx at'
    let index := min index rest.length
    modify fun q => { q with selection := rest.insertIdx index id }
    announce (.itemOrderChanged id index)

/-! ### Properties -/

/-- Renames an item. The name must not be blank; blanks around it are kept. -/
def renameItem (id : ItemId) (name : String) : Change Unit := do
  if Text.isBlankText name then refuse (.invalidArgument .blankItemName)
  setItemProperty id .name (·.name) (fun name x => { x with name }) (fun s => .text (some s)) name

/-- Sets the alias of an item; a blank one is none. -/
def setItemAlias (id : ItemId) (text : Option String) : Change Unit :=
  setItemProperty id .aliasText (·.aliasText) (fun aliasText x => { x with aliasText }) .text
    (Text.nonBlank text)

/-- Sets the filter of an item; a blank one is none. -/
def setItemFilter (id : ItemId) (text : Option String) : Change Unit :=
  setItemProperty id .whereFragment (·.whereText) (fun whereText x => { x with whereText }) .text
    (Text.nonBlank text)

/-- Sets the filter of an item on groups; a blank one is none. -/
def setItemHaving (id : ItemId) (text : Option String) : Change Unit :=
  setItemProperty id .having (·.havingText) (fun havingText x => { x with havingText }) .text
    (Text.nonBlank text)

/-- Sets how an item takes part in grouping. -/
def setGroupFunction (id : ItemId) (f : GroupFunction) : Change Unit :=
  setItemProperty id .groupFunction (·.groupFunction)
    (fun groupFunction x => { x with groupFunction }) .group f

/-- Sets the width of an item's column. -/
def setColumnWidth (id : ItemId) (width : Option UInt32) : Change Unit :=
  setItemProperty id .columnWidth (·.columnWidth) (fun columnWidth x => { x with columnWidth })
    (fun w => .integer (w.map fun n => (n.toNat : Int))) width

/-! ### Removing -/

/-- Removes joins one by one and announces each. -/
def removeJoins : List JoinId → Change Unit
  | [] => pure ()
  | id :: ids => do
    match (← get).joins.remove? id with
    | none => removeJoins ids
    | some (j, joins) =>
      modify fun q => { q with joins }
      announce (.joinRemoved j)
      removeJoins ids

/-- Takes an item out of the selection, the joins and its container. -/
def detachItem (id : ItemId) : Change Item := do
  setItemSelected id false
  removeJoins ((← get).joins.idsOfItem id)
  -- nothing refers to the item any more
  let c ← need (.unknownItem id) ((← get).itemIndex.get? id)
  let container ← needContainer c
  let (item, container) ← need (.unknownItem id) (container.remove? id)
  modify fun q =>
    { q.modifyContainer c (fun _ => container) with itemIndex := q.itemIndex.erase id }
  announce (.itemRemoved c id)
  return item

/-- Removes an item. -/
def removeItem (id : ItemId) : Change Item := do
  let item ← need (.unknownItem id) ((← get).item? id)
  asCompoundEdit ("Removing item " ++ item.name) (detachItem id)

end VisualQuery.Query
