import VisualQuery.Item
import VisualQuery.Position

/-!
# Containers

A container is an ordered list of items: a table of the database, or the constants of the query,
which hold the built-in placeholders and the constants the user typed in. It remembers a position
on the user's screen, a free-form value that is only passed on.
-/

namespace VisualQuery

/-- What a container stands for. -/
inductive ContainerKind where
  /-- A table, in a schema if one is given. -/
  | table (schema : Option String)
  /-- The constants of the query. -/
  | constants
deriving DecidableEq, Repr, Inhabited

/-- An ordered list of items. -/
structure Container where
  /-- The identity. -/
  id : ContainerId
  /-- The name of the table. -/
  name : String
  /-- The alias as it was given; see `Container.alias?`. -/
  aliasText : Option String
  /-- What the container stands for. -/
  kind : ContainerKind
  /-- The items in order. -/
  items : List Item
  /-- The position on the user's screen. -/
  position : Position

/-- Identities for the four built-in items of the constants container. -/
structure BuiltinIds where
  /-- For the current time. -/
  currentTime : ItemId
  /-- For the current date. -/
  currentDate : ItemId
  /-- For the user. -/
  user : ItemId
  /-- For the count of all rows. -/
  countStar : ItemId
deriving DecidableEq, Repr, Inhabited

namespace BuiltinIds

/-- The four identities in the order of their items. -/
def toList (ids : BuiltinIds) : List ItemId :=
  [ids.currentTime, ids.currentDate, ids.user, ids.countStar]

/-- Draws four fresh identities. -/
def mint : Minting BuiltinIds := do
  return { currentTime := ← ItemId.mint, currentDate := ← ItemId.mint, user := ← ItemId.mint
           countStar := ← ItemId.mint }

end BuiltinIds

namespace Container

/-! ### Building -/

/-- A table without items. -/
def table (id : ContainerId) (name : String) : Container :=
  { id, name, aliasText := none, kind := .table none, items := [], position := .none }

/-- The built-in items of a constants container. -/
def builtins (ids : BuiltinIds) : List Item :=
  [.constant ids.currentTime "current_time", .constant ids.currentDate "current_date",
    .constant ids.user "user", .countStar ids.countStar]

/-- The container with every item's parent set to it. -/
def adopt (c : Container) : Container :=
  { c with items := c.items.map fun x => { x with parent := some c.id } }

/-- A constants container with the built-in items. -/
def constants (id : ContainerId) (ids : BuiltinIds) : Container :=
  adopt { id, name := "Constants", aliasText := none, kind := .constants, items := builtins ids
          position := .none }

/-! ### Looking -/

/-- The alias; an empty one is none. -/
def alias? (c : Container) : Option String := Text.nonEmpty c.aliasText

/-- Whether the container holds the constants of a query. -/
def isConstants (c : Container) : Bool := c.kind == .constants

/-- The schema of the table. -/
def schema? (c : Container) : Option String :=
  match c.kind with
  | .table schema => schema
  | .constants => none

/-- The name its items are qualified with: the alias, or else the name. -/
def qualifier (c : Container) : String := c.alias?.getD c.name

/-- The first item with an identity. -/
def item? (c : Container) (id : ItemId) : Option Item := c.items.find? (·.id = id)

/-- Whether an item with an identity is in the container. -/
def contains (c : Container) (id : ItemId) : Bool := c.items.any (·.id = id)

/-- The place of the first item with an identity. -/
def indexOf? (c : Container) (id : ItemId) : Option Nat := c.items.findIdx? (·.id = id)

/-- The first item with a name. -/
def itemNamed? (c : Container) (name : String) : Option Item := c.items.find? (·.name = name)

/-! ### Changing -/

/-- Puts an item at a place, or at the end if the place lies behind it. -/
def insert (c : Container) (index : Nat) (x : Item) : Container :=
  { c with items := c.items.insertIdx (min index c.items.length) { x with parent := some c.id } }

/-- Puts an item at the end. -/
def push (c : Container) (x : Item) : Container := c.insert c.items.length x

/-- Takes the item at a place out, which then has no parent. -/
def removeAt? (c : Container) (index : Nat) : Option (Item × Container) :=
  c.items[index]?.map fun x =>
    ({ x with parent := none }, { c with items := c.items.eraseIdx index })

/-- Takes the first item with an identity out, which then has no parent. -/
def remove? (c : Container) (id : ItemId) : Option (Item × Container) :=
  (c.indexOf? id).bind c.removeAt?

/-- Changes the first item with an identity. -/
def modify (c : Container) (id : ItemId) (f : Item → Item) : Container :=
  { c with items := modifyFirst c.items }
where
  /-- Changes the first item with the identity. -/
  modifyFirst : List Item → List Item
    | [] => []
    | x :: rest => if x.id = id then f x :: rest else x :: modifyFirst rest

/-- A copy of the container and its items under fresh identities. -/
def copy (c : Container) : Minting Container := do
  let id ← ContainerId.mint
  let items ← c.items.mapM fun x => return x.copyAs (← ItemId.mint)
  return adopt { c with id, items }

end Container

end VisualQuery
