import VisualQuery.Error
import VisualQuery.Join

/-!
# The join registry

The registry keeps three things in step by hand: a map from identities to joins, the identities in
the order they were registered, and an index from each container to the joins that touch it. The map
is a list in which a join is looked up by its identity; where an order matters, it is the one of
registration, and the joins are those that the map holds for its identities
(`JoinRegistry.inOrder`).

The registry keeps one outer flag per container: the flags of all joins at a container agree, so a
new join takes over the flag of a container that has joins already, and changing the flag of one
join changes it for all joins at that container.
-/

namespace VisualQuery

/-- The joins at each container that has any. -/
abbrev Adjacency := List (ContainerId × List JoinId)

namespace Adjacency

/-- The joins listed under a container. -/
def ids (index : Adjacency) (c : ContainerId) : List JoinId := (index.lookup c).getD []

/-- Lists a join under a container, behind the ones listed there. -/
def attach (id : JoinId) (c : ContainerId) : Adjacency → Adjacency
  | [] => [(c, [id])]
  | (d, ids) :: rest =>
    if d = c then (d, ids ++ [id]) :: rest else (d, ids) :: attach id c rest

/-- Removes a join from the list of a container, and the list with its last join. -/
def detach (id : JoinId) (c : ContainerId) : Adjacency → Adjacency
  | [] => []
  | (d, ids) :: rest =>
    if d = c then
      match ids.filter (· ≠ id) with
      -- a container without joins is not listed
      | [] => rest
      | left => (d, left) :: rest
    else (d, ids) :: detach id c rest

end Adjacency

/-- The joins of a query. -/
structure JoinRegistry where
  /-- The map from identities to joins. -/
  joins : List Join
  /-- The identities of the joins in the order they were registered. -/
  ids : List JoinId
  /-- The joins at each container. -/
  adjacency : Adjacency
deriving DecidableEq, Repr

/-- A change of an outer flag that the rule of one flag per container brought about. -/
structure OuterChange where
  /-- The join. -/
  join : JoinId
  /-- The side of the join. -/
  side : Side
  /-- The flag before. -/
  old : Bool
  /-- The flag after. -/
  new : Bool
deriving DecidableEq, Repr

namespace JoinRegistry

/-- No joins. -/
def empty : JoinRegistry := ⟨[], [], []⟩

/-! ### Looking -/

/-- The join with an identity. -/
def get? (r : JoinRegistry) (id : JoinId) : Option Join := r.joins.find? (·.id = id)

/-- Whether a join with an identity is registered. -/
def contains (r : JoinRegistry) (id : JoinId) : Bool := (r.get? id).isSome

/-- The joins in the order they were registered. -/
def inOrder (r : JoinRegistry) : List Join := r.ids.filterMap r.get?

/-- The identities of the joins at a container. -/
def idsAt (r : JoinRegistry) (c : ContainerId) : List JoinId := r.adjacency.ids c

/-- The joins at a container. -/
def joinsAt (r : JoinRegistry) (c : ContainerId) : List Join := (r.idsAt c).filterMap r.get?

/-- The joins between two containers, in either direction. -/
def joinsBetween (r : JoinRegistry) (a b : ContainerId) : List Join :=
  (r.joinsAt a).filter (·.connects a b)

/-- Whether a join leads from one container to the other. -/
def areJoined (r : JoinRegistry) (a b : ContainerId) : Bool := !(r.joinsBetween a b).isEmpty

/-- The identities of the joins with an end at an item. -/
def idsOfItem (r : JoinRegistry) (x : ItemId) : List JoinId :=
  (r.inOrder.filter (·.references x)).map (·.id)

/-! ### Changing -/

/-- Replaces the joins with an identity by what `f` makes of them. -/
def modify (r : JoinRegistry) (id : JoinId) (f : Join → Join) : JoinRegistry :=
  { r with joins := r.joins.map fun j => if j.id = id then f j else j }

/-- The side of a listed join at the container it is listed under. -/
def listedSide (c : ContainerId) (j : Join) : Except TopologyError Side :=
  match j.sideOf? c with
  | some side => .ok side
  | none => .error (.touchesNeither j.id c)

/-- The outer flag of a container, as the first of its joins has it. -/
def outerFlag? (r : JoinRegistry) (c : ContainerId) : Except TopologyError (Option Bool) :=
  match (r.joinsAt c).head? with
  | none => .ok none
  | some j => do
    let side ← listedSide c j
    return some (j.atSide side).outer

/-- The change that gives one side of a join the outer flag of its container, if they differ. -/
def forcedChange? (j : Join) (side : Side) (flag : Option Bool) : Option OuterChange :=
  match flag with
  | none => none
  | some new =>
    let old := (j.atSide side).outer
    if old = new then none else some ⟨j.id, side, old, new⟩

/-- Registers a join, with the outer flags of containers that have joins already. Returns the flags
of the join that were changed by that. -/
def add (r : JoinRegistry) (j : Join) : Except TopologyError (List OuterChange × JoinRegistry) := do
  if r.contains j.id then throw (.alreadyRegistered j.id)
  if j.left.container = j.right.container then throw (.selfJoin j.id j.left.container)
  -- the containers keep their flags, and the join gives way
  let left := forcedChange? j .left (← r.outerFlag? j.left.container)
  let right := forcedChange? j .right (← r.outerFlag? j.right.container)
  let changes := left.toList ++ right.toList
  let forced := changes.foldl (fun j change => j.setOuter change.side change.new) j
  return (changes,
    { joins := r.joins ++ [forced]
      ids := r.ids ++ [j.id]
      adjacency := (r.adjacency.attach j.id j.left.container).attach j.id j.right.container })

/-- Takes a join out. -/
def remove? (r : JoinRegistry) (id : JoinId) : Option (Join × JoinRegistry) :=
  (r.get? id).map fun j =>
    (j, { joins := r.joins.filter (·.id ≠ id)
          ids := r.ids.filter (· ≠ id)
          adjacency := (r.adjacency.detach id j.left.container).detach id j.right.container })

/-- Takes the joins with the given identities out, one after the other. -/
def removeAll (r : JoinRegistry) : List JoinId → List Join × JoinRegistry
  | [] => ([], r)
  | id :: ids =>
    match r.remove? id with
    | none => r.removeAll ids
    | some (j, r) =>
      let (js, r) := r.removeAll ids
      (j :: js, r)

/-- Takes all joins at a container out. -/
def removeContainer (r : JoinRegistry) (c : ContainerId) : List Join × JoinRegistry :=
  r.removeAll (r.idsAt c)

/-- Sets the outer flag on one side of a join, and with it the flags of all joins at the container
there. Returns the flags that were changed. -/
def setOuter (r : JoinRegistry) (id : JoinId) (side : Side) (outer : Bool) :
    Except QueryError (List OuterChange × JoinRegistry) :=
  match r.get? id with
  | none => .error (.unknownJoin id)
  | some j =>
    let c := (j.atSide side).container
    match (r.joinsAt c).mapM fun k => (listedSide c k).map fun side => (k, side) with
    | .error cause => .error (.topology cause)
    | .ok targets =>
      -- joins that have the flag already are left alone
      let changes := targets.filterMap fun (k, side) =>
        let old := (k.atSide side).outer
        if old = outer then none else some ⟨k.id, side, old, outer⟩
      .ok (changes, changes.foldl (fun r change =>
        r.modify change.join fun j => j.setOuter change.side change.new) r)

/-! ### Consistency -/

/-- Whether a join is listed exactly once under each of its containers. -/
def listsOnce (r : JoinRegistry) (j : Join) : Bool :=
  (r.idsAt j.left.container).count j.id == 1 && (r.idsAt j.right.container).count j.id == 1

/-- Whether the joins listed under a container exist, touch it and agree on its outer flag. -/
def listsRightly (r : JoinRegistry) (c : ContainerId) (ids : List JoinId) : Bool :=
  -- a join that is missing or does not touch the container has no flag there
  let flags := ids.filterMap fun id =>
    (r.get? id).bind fun j => (j.sideOf? c).map fun side => (j.atSide side).outer
  flags.all (fun flag => flags.head? == some flag) &&
    ids.all fun id => ((r.get? id).map (·.touches c)).getD false

/-- Whether the index and the joins agree, and the outer flags do. -/
def isConsistent (r : JoinRegistry) : Bool :=
  r.joins.all r.listsOnce && r.adjacency.all fun (c, ids) => r.listsRightly c ids

end JoinRegistry

end VisualQuery
