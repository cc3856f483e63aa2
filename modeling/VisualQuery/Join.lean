import VisualQuery.Ident

/-!
# Joins

A join compares an item of one container with an item of another one. Each end says whether its
container's side is outer: then all rows of that container are kept. The two flags together give
the kind of the join.
-/

namespace VisualQuery

/-- How a join compares its two items. -/
inductive Comparator where
  /-- Equality. -/
  | eq
  /-- Greater than. -/
  | gt
  /-- Less than. -/
  | lt
  /-- At least. -/
  | ge
  /-- At most. -/
  | le
  /-- Different from. -/
  | ne
  /-- The word `BETWEEN`. -/
  | between
  /-- The word `LIKE`. -/
  | like
  /-- The word `NOT`. -/
  | not
  /-- The word `IN`. -/
  | in'
deriving DecidableEq, Repr, Inhabited

namespace Comparator

/-- All comparators. -/
def all : List Comparator := [.eq, .gt, .lt, .ge, .le, .ne, .between, .like, .not, .in']

/-- The comparator in a statement, which is also its name in a document. -/
def word : Comparator → String
  | .eq => "="
  | .gt => ">"
  | .lt => "<"
  | .ge => ">="
  | .le => "<="
  | .ne => "<>"
  | .between => "BETWEEN"
  | .like => "LIKE"
  | .not => "NOT"
  | .in' => "IN"

end Comparator

/-- One of the two sides of a join. -/
inductive Side where
  /-- The left side. -/
  | left
  /-- The right side. -/
  | right
deriving DecidableEq, Repr, Inhabited

/-- The other side. -/
def Side.opposite : Side → Side
  | .left => .right
  | .right => .left

/-- One end of a join. -/
structure JoinEnd where
  /-- The container on this side. -/
  container : ContainerId
  /-- The item that is compared. -/
  item : ItemId
  /-- Whether all rows of the container are kept. -/
  outer : Bool
deriving DecidableEq, Repr, Inhabited

/-- Which rows without a partner a join keeps. -/
inductive JoinKind where
  /-- None. -/
  | inner
  /-- Those of the left side. -/
  | leftOuter
  /-- Those of the right side. -/
  | rightOuter
  /-- Those of both sides. -/
  | fullOuter
deriving DecidableEq, Repr, Inhabited

namespace JoinKind

/-- The kind of a join with the given outer sides. -/
def ofFlags : (left right : Bool) → JoinKind
  | true, true => .fullOuter
  | true, false => .leftOuter
  | false, true => .rightOuter
  | false, false => .inner

/-- The words for the kind in a statement. -/
def keyword : JoinKind → String
  | .inner => "INNER JOIN"
  | .leftOuter => "LEFT OUTER JOIN"
  | .rightOuter => "RIGHT OUTER JOIN"
  | .fullOuter => "FULL OUTER JOIN"

end JoinKind

/-- A comparison between items of two containers. -/
structure Join where
  /-- The identity. -/
  id : JoinId
  /-- The left end. -/
  left : JoinEnd
  /-- The right end. -/
  right : JoinEnd
  /-- How the two items are compared. -/
  comparator : Comparator
  /-- A name the user may give. -/
  name : Option String
deriving DecidableEq, Repr, Inhabited

namespace Join

/-- The end on a side. -/
def atSide (j : Join) : Side → JoinEnd
  | .left => j.left
  | .right => j.right

/-- The join with the outer flag of one side replaced. -/
def setOuter (j : Join) (side : Side) (outer : Bool) : Join :=
  match side with
  | .left => { j with left := { j.left with outer } }
  | .right => { j with right := { j.right with outer } }

/-- The kind of the join. -/
def kind (j : Join) : JoinKind := .ofFlags j.left.outer j.right.outer

/-- The side a container is on; the left one comes first. -/
def sideOf? (j : Join) (c : ContainerId) : Option Side :=
  if j.left.container = c then some .left
  else if j.right.container = c then some .right
  else none

/-- Whether one of the ends is at a container. -/
def touches (j : Join) (c : ContainerId) : Bool := (j.sideOf? c).isSome

/-- Whether the join leads from one container to another, in either direction. -/
def connects (j : Join) (a b : ContainerId) : Bool :=
  (j.left.container = a && j.right.container = b) ||
    (j.left.container = b && j.right.container = a)

/-- The container at the other end. -/
def otherContainer? (j : Join) (c : ContainerId) : Option ContainerId :=
  (j.sideOf? c).map fun side => (j.atSide side.opposite).container

/-- Whether one of the ends is at an item. -/
def references (j : Join) (x : ItemId) : Bool := j.left.item = x || j.right.item = x

end Join

end VisualQuery
