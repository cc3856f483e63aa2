import VisualQuery.Query.Basic

/-!
# Copies of a query

A copy has fresh identities throughout. Containers and items are copied first, under a record of
which identity became which; joins, selection and sort list follow through the record. A copy is not
part of any compound edit.
-/

namespace VisualQuery

/-- Which identities of a query became which ones of its copy. -/
structure Renaming where
  /-- The containers, old identity first. -/
  containers : List (ContainerId × ContainerId)
  /-- The items, old identity first. -/
  items : List (ItemId × ItemId)

namespace Renaming

/-- Nothing renamed. -/
def empty : Renaming := ⟨[], []⟩

/-- Records a copied container; a later record of the same identity counts. -/
def record (r : Renaming) (c copy : Container) : Renaming :=
  { containers := (c.id, copy.id) :: r.containers
    items := ((c.items.map (·.id)).zip (copy.items.map (·.id))).reverse ++ r.items }

/-- The new identity of an item. -/
def item? (r : Renaming) (x : ItemId) : Option ItemId := r.items.lookup x

/-- An end of a join at the new identities. -/
def joinEnd? (r : Renaming) (e : JoinEnd) : Option JoinEnd := do
  return { container := ← r.containers.lookup e.container, item := ← r.item? e.item
           outer := e.outer }

end Renaming

namespace Query

/-- Lists the items of all containers in a new index and sets their parents. -/
def reindex (q : Query) : Query :=
  let constants := q.constants.adopt
  let tables := q.tables.map Container.adopt
  { q with constants, tables
           itemIndex := tables.foldl ItemIndex.enter (ItemIndex.enter [] constants) }

/-- Copies containers one after the other. -/
def copyContainers (r : Renaming) : List Container → Minting (List Container × Renaming)
  | [] => return ([], r)
  | c :: rest => do
    let copy ← c.copy
    let (copies, r) ← copyContainers (r.record c copy) rest
    return (copy :: copies, r)

/-- Registers copies of joins one after the other; one that does not fit is left out. -/
def copyJoins (r : Renaming) (into : JoinRegistry) : List Join → Minting JoinRegistry
  | [] => return into
  | j :: rest => do
    match r.joinEnd? j.left, r.joinEnd? j.right with
    | some left, some right =>
      let copy : Join := { id := ← JoinId.mint, left, right, comparator := j.comparator
                           name := j.name }
      match into.add copy with
      -- all joins at a table agree already, so no flag of the copy changes
      | .ok (_, into) => copyJoins r into rest
      | .error _ => copyJoins r into rest
    | _, _ => copyJoins r into rest

/-- A copy of a query under fresh identities. -/
def duplicate (q : Query) : Minting Query := do
  let id ← QueryId.mint
  let constants ← q.constants.copy
  let (tables, names) ← copyContainers (Renaming.empty.record q.constants constants) q.fromTables
  let joins ← copyJoins names .empty q.joins.inOrder
  let copy := reindex { onConstants id q.name constants with
    tables, tableIds := tables.map fun c => c.id }
  return { copy with
    joins
    -- the settings are taken over one by one; what belongs to a compound edit is left behind
    selection := q.selection.filterMap names.item?
    sortList := q.sortList.filterMap names.item?
    globalWhere := q.globalWhere, grouping := q.grouping, rowLimit := q.rowLimit
    streamingRowLimit := q.streamingRowLimit, streaming := q.streaming, zoom := q.zoom
    userOverride := q.userOverride, source := q.source }

end Query

end VisualQuery
