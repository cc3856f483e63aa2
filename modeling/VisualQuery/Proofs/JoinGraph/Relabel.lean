import VisualQuery.Proofs.JoinGraph
import VisualQuery.Proofs.Relabel

/-!
# The join graph under other identities

The search of the join graph compares tables with each other and asks nothing else of them. If other
identities take the place of the tables, different ones for different tables, the search sees,
pushes and finishes the same tables under their new identities (`JoinGraph.search_map`), and so the
order in which it finishes them is the renamed order (`finishOrder_relabel`). It is an induction
along the search itself, since the stack grows and shrinks.
-/

namespace VisualQuery

namespace JoinGraph

/-- The graph with its nodes renamed. -/
def map (f : ContainerId → ContainerId) (g : JoinGraph) : JoinGraph :=
  { nodes := g.nodes.map f, edges := g.edges.map (Prod.map f f) }

variable {f : ContainerId → ContainerId} (hf : Function.Injective f) (g : JoinGraph)
include hf

theorem successors_map (c : ContainerId) :
    (g.map f).successors (f c) = (g.successors c).map f := by
  -- the renaming is injective, so it makes no arrow leave a table that it did not leave
  have hstep : ∀ e : ContainerId × ContainerId,
      (if f e.1 = f c then some (f e.2) else none) =
        (if e.1 = c then some e.2 else none).map f := by
    intro e
    by_cases he : e.1 = c
    · rw [if_pos he, if_pos (congrArg f he), Option.map_some]
    · rw [if_neg he, if_neg fun hfe => he (hf hfe), Option.map_none]
  unfold successors map
  rw [List.filterMap_map, List.map_filterMap]
  exact congrArg (List.filterMap · g.edges) (funext hstep)

/-- **The search does not depend on what the tables are called.** -/
theorem search_map (unseen finished stack : List ContainerId) :
    (g.map f).search (unseen.map f) (finished.map f) (stack.map f) =
      ((g.search unseen finished stack).1.map f, (g.search unseen finished stack).2.map f) := by
  induction unseen, finished, stack using JoinGraph.search.induct g with
  | case1 unseen finished => rw [List.map_nil, search, search]
  | case2 unseen finished c stack hc rest ih =>
    -- the successors that are pushed are the renamed ones
    have hunseen : (unseen.map f).erase (f c) = rest.map f := (List.map_erase hf unseen).symm
    have hpush : ((g.map f).successors (f c)).filter (· ∈ rest.map f) =
        ((g.successors c).filter (· ∈ rest)).map f := by
      rw [g.successors_map hf, List.filter_map]
      refine congrArg (List.map f) (List.filter_congr fun d _ => ?_)
      exact decide_eq_decide.mpr (List.mem_map_of_injective hf)
    rw [List.map_append, List.map_cons] at ih
    rw [List.map_cons, search, if_pos (List.mem_map_of_mem hc), search, if_pos hc, hunseen]
    dsimp only
    rw [hpush, ih]
  | case3 unseen finished c stack hc ih =>
    simp only [dite_eq_ite] at ih
    have hfinish : (if f c ∈ finished.map f then finished.map f else f c :: finished.map f) =
        (if c ∈ finished then finished else c :: finished).map f := by
      by_cases hmem : c ∈ finished
      · rw [if_pos hmem, if_pos (List.mem_map_of_mem hmem)]
      · rw [if_neg hmem, if_neg fun h => hmem ((List.mem_map_of_injective hf).mp h), List.map_cons]
    have hcf : f c ∉ unseen.map f := fun h => hc ((List.mem_map_of_injective hf).mp h)
    rw [List.map_cons, search, if_neg hcf, search, if_neg hc, hfinish, ih]

theorem searchFrom_map (unseen finished roots : List ContainerId) :
    (g.map f).searchFrom (unseen.map f) (finished.map f) (roots.map f) =
      (g.searchFrom unseen finished roots).map f := by
  induction roots generalizing unseen finished with
  | nil => rfl
  | cons root roots ih =>
    rw [List.map_cons, searchFrom, searchFrom]
    by_cases hroot : root ∈ finished
    · rw [if_pos hroot, if_pos (List.mem_map_of_mem hroot), ih]
    · -- the search from one root is renamed first, what it leaves is the start of the rest
      have hsearch := g.search_map hf unseen finished [root]
      rw [List.map_singleton] at hsearch
      rw [if_neg hroot, if_neg fun h => hroot ((List.mem_map_of_injective hf).mp h), hsearch]
      exact ih _ _

theorem finishOrder_map : (g.map f).finishOrder = g.finishOrder.map f := by
  unfold finishOrder
  rw [show (g.map f).nodes = g.nodes.map f from rfl, ← List.map_reverse]
  exact g.searchFrom_map hf g.nodes [] g.nodes.reverse

end JoinGraph

/-! ### The tables of a query -/

theorem eraseDups_map {f : ContainerId → ContainerId} (hf : Function.Injective f)
    (l : List ContainerId) : (l.map f).eraseDups = l.eraseDups.map f := by
  induction l using List.reverseRecOn with
  | nil => rfl
  | append_singleton l c ih =>
    have hlast : ([f c].removeAll (l.map f)).eraseDups = ([c].removeAll l).eraseDups.map f := by
      have hmem : f c ∈ l.map f ↔ c ∈ l := List.mem_map_of_injective hf
      by_cases hc : c ∈ l
      · simp [-List.mem_map, List.removeAll, hmem, hc]
      · simp [-List.mem_map, List.removeAll, hmem, hc, List.eraseDups_cons]
    rw [List.map_append, List.map_singleton, List.eraseDups_append, List.eraseDups_append, ih,
      hlast, List.map_append]

variable (ρ : Relabeling) (tables : List ContainerId)

theorem JoinGraph.ofTables_relabel (joins : List Join) :
    ofTables (tables.map ρ.container) (joins.map (Join.relabel ρ)) =
      (ofTables tables joins).map ρ.container := by
  -- which joins become edges is a matter of membership, which renaming keeps
  have hedge : ∀ j : Join,
      (if ρ.container j.left.container ∈ tables.eraseDups.map ρ.container ∧
          ρ.container j.right.container ∈ tables.eraseDups.map ρ.container then
        some (ρ.container j.left.container, ρ.container j.right.container) else none) =
      (if j.left.container ∈ tables.eraseDups ∧ j.right.container ∈ tables.eraseDups then
        some (j.left.container, j.right.container) else none).map
          (Prod.map ρ.container ρ.container) := by
    intro j
    simp only [List.mem_map_of_injective ρ.container_injective]
    split <;> rfl
  unfold ofTables JoinGraph.map
  dsimp only
  rw [eraseDups_map ρ.container_injective, List.filterMap_map, List.map_filterMap]
  exact congrArg (JoinGraph.mk _) (congrArg (List.filterMap · joins) (funext hedge))

/-- The tables are named in the same order. -/
theorem finishOrder_relabel {r r' : JoinRegistry}
    (hjoins : r'.inOrder = r.inOrder.map (Join.relabel ρ)) :
    finishOrder (tables.map ρ.container) r' = (finishOrder tables r).map ρ.container := by
  unfold finishOrder
  rw [hjoins, JoinGraph.ofTables_relabel,
    JoinGraph.finishOrder_map ρ.container_injective]

/-- The search for cross joins goes along renamed tables as it did before. -/
theorem startsApart_relabel {r r' : JoinRegistry}
    (hjoined : ∀ c d, r'.areJoined (ρ.container c) (ρ.container d) = r.areJoined c d)
    (earlier cs : List ContainerId) :
    startsApart r' (earlier.map ρ.container) (cs.map ρ.container) = startsApart r earlier cs := by
  induction cs generalizing earlier with
  | nil => rfl
  | cons c cs ih =>
    have hrest := ih (earlier ++ [c])
    rw [List.map_append, List.map_singleton] at hrest
    -- a table is compared with the ones before it, all of them renamed alike
    have hany : (earlier.map ρ.container).any (r'.areJoined (ρ.container c)) =
        earlier.any (r.areJoined c) := by
      rw [List.any_map]
      exact congrArg earlier.any (funext fun d => hjoined c d)
    rw [List.map_cons, startsApart, startsApart, hrest]
    simp only [hany, List.isEmpty_map]

end VisualQuery
