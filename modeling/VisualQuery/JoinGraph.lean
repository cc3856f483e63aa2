import VisualQuery.JoinRegistry

/-!
# The join graph

The tables of a from-list are the nodes of a graph, and each join between two of them is an edge
from its left container to its right one. A depth-first search that starts from the last table of
the list first finishes the tables in some order; read backwards that order (`finishOrder`) is the
one in which a statement names them. Without cycles the left table of a join comes before the right
one.

The search keeps a stack. It looks at the table on top: the first time, it marks the table as seen
and pushes those of its successors that have not been seen, the successor by the earliest join on
top; the next time, it pops the table and finishes it, unless it is finished already.
-/

namespace VisualQuery

/-- The tables of a from-list and the joins between them. -/
structure JoinGraph where
  /-- The tables, each once, in the order of the list. -/
  nodes : List ContainerId
  /-- The left and the right table of each join, in the order the joins were registered. -/
  edges : List (ContainerId × ContainerId)
deriving DecidableEq, Repr

namespace JoinGraph

/-- The graph of a list of tables; joins that lead out of the list are left out. -/
def ofTables (tables : List ContainerId) (joins : List Join) : JoinGraph :=
  let nodes := tables.eraseDups
  { nodes
    edges := joins.filterMap fun j =>
      if j.left.container ∈ nodes ∧ j.right.container ∈ nodes then
        some (j.left.container, j.right.container)
      else none }

/-- The right tables of the joins that start at a table, the earliest join first. -/
def successors (g : JoinGraph) (c : ContainerId) : List ContainerId :=
  g.edges.filterMap fun (left, right) => if left = c then some right else none

/-- The search with a stack, whose top comes first. Returns the tables it has not seen and the ones
it has finished, the last one first. -/
def search (g : JoinGraph) (unseen finished : List ContainerId) :
    (stack : List ContainerId) → List ContainerId × List ContainerId
  | [] => (unseen, finished)
  | c :: stack =>
    if c ∈ unseen then
      -- the first time on top: the table stays below its successors
      let unseen := unseen.erase c
      g.search unseen finished ((g.successors c).filter (· ∈ unseen) ++ c :: stack)
    else
      -- a table that was pushed twice comes up again after it is finished
      g.search unseen (if c ∈ finished then finished else c :: finished) stack
termination_by stack => (unseen.length, stack.length)
decreasing_by
  · -- a table is seen for the first time: fewer are unseen
    next h =>
    have := List.length_pos_of_mem h
    simp only [List.length_erase_of_mem h]
    exact Prod.Lex.left _ _ (by omega)
  · -- a table is popped
    exact Prod.Lex.right _ (by simp)

/-- Starts a search from each root that is not finished, one after the other. -/
def searchFrom (g : JoinGraph) (unseen finished : List ContainerId) :
    (roots : List ContainerId) → List ContainerId
  | [] => finished
  | root :: roots =>
    if root ∈ finished then g.searchFrom unseen finished roots
    else
      let (unseen, finished) := g.search unseen finished [root]
      g.searchFrom unseen finished roots

/-- The tables in the reverse of the order in which the search finishes them. -/
def finishOrder (g : JoinGraph) : List ContainerId := g.searchFrom g.nodes [] g.nodes.reverse

end JoinGraph

/-- The order in which a statement names the tables of a list. -/
def finishOrder (tables : List ContainerId) (r : JoinRegistry) : List ContainerId :=
  (JoinGraph.ofTables tables r.inOrder).finishOrder

/-- Whether some table of a sequence has no join to an earlier one; the first table needs none. -/
def startsApart (r : JoinRegistry) (earlier : List ContainerId) : List ContainerId → Bool
  | [] => false
  | c :: rest =>
    (!earlier.isEmpty && !earlier.any fun d => r.areJoined c d) ||
      startsApart r (earlier ++ [c]) rest

/-- Whether a statement over the tables has to join some table without any condition. -/
def hasCrossJoin (tables : List ContainerId) (r : JoinRegistry) : Bool :=
  startsApart r [] (finishOrder tables r)

end VisualQuery
