import VisualQuery.Proofs.JoinGraph.Cycles

/-!
# The search ends

The order of the tables is found by two loops, one inside the other: over the roots, and over the
stack of the search that starts from a root. Neither of them counts anything, a table may be pushed
many times before it is finished, and what was seen and finished stays so from one root to the next.
This module goes through the loops one look at a time (`JoinGraph.step?`): at the table on top of
the stack, or at the next root once the stack is empty.

Each look costs one of a supply that is there from the start (`JoinGraph.work`). What is on the
stack is looked at once more; a root is looked at twice, first on the list of roots and then on the
stack; and an unseen table will be popped once more than it was pushed, and pushes at most as many
tables as joins start from it. Hence `finishOrder_ends`: whatever the joins are, cycles and parallel
joins included, no more than three looks are taken for each table and one for each join, and when
there is nothing left to look at, each table of the list is finished once, and nothing else is.
-/

namespace VisualQuery

namespace JoinGraph

variable {g : JoinGraph}

/-! ### One look at a time -/

/-- How far the search has come. -/
structure Standing where
  /-- The tables that were not seen. -/
  unseen : List ContainerId
  /-- The finished tables, the last one first. -/
  finished : List ContainerId
  /-- The stack, whose top comes first. -/
  stack : List ContainerId
  /-- The roots that are left. -/
  roots : List ContainerId

/-- The search before its first look. -/
def start (g : JoinGraph) : Standing :=
  { unseen := g.nodes, finished := [], stack := [], roots := g.nodes.reverse }

/-- One look: at the top of the stack, or at the next root if the stack is empty. Once both are
worked off there is nothing to look at. -/
def step? (g : JoinGraph) : Standing → Option Standing
  | ⟨unseen, finished, c :: stack, roots⟩ =>
    if c ∈ unseen then
      let unseen := unseen.erase c
      some ⟨unseen, finished, (g.successors c).filter (· ∈ unseen) ++ c :: stack, roots⟩
    else some ⟨unseen, if c ∈ finished then finished else c :: finished, stack, roots⟩
  | ⟨unseen, finished, [], root :: roots⟩ =>
    some ⟨unseen, finished, if root ∈ finished then [] else [root], roots⟩
  | ⟨_, _, [], []⟩ => none

/-- So many looks lead from one standing to another. -/
inductive Steps (g : JoinGraph) : Nat → Standing → Standing → Prop where
  /-- No look is taken. -/
  | refl (s : Standing) : Steps g 0 s s
  /-- One look, and then others. -/
  | step {n : Nat} {s s' s'' : Standing} (hstep : g.step? s = some s')
    (hrest : Steps g n s' s'') : Steps g (n + 1) s s''

theorem Steps.trans {m n : Nat} {s s' s'' : Standing} (h : Steps g m s s')
    (h' : Steps g n s' s'') : Steps g (m + n) s s'' := by
  induction h with
  | refl s => rwa [Nat.zero_add]
  | step hstep _ ih =>
    rw [Nat.add_right_comm]
    exact .step hstep (ih h')

/-! ### The loops -/

/-- The search works its stack off, one look at a time. -/
theorem search_steps (g : JoinGraph) (unseen finished stack roots : List ContainerId) :
    ∃ n, Steps g n ⟨unseen, finished, stack, roots⟩
      ⟨(g.search unseen finished stack).1, (g.search unseen finished stack).2, [], roots⟩ := by
  induction unseen, finished, stack using JoinGraph.search.induct g with
  | case1 unseen finished =>
    rw [search]
    exact ⟨0, .refl _⟩
  | case2 unseen finished c stack hc unseen' ih =>
    -- the table on top is seen for the first time
    obtain ⟨n, hrest⟩ := ih
    rw [search, if_pos hc]
    exact ⟨n + 1, .step (if_pos hc) hrest⟩
  | case3 unseen finished c stack hc ih =>
    -- the table on top is popped
    obtain ⟨n, hrest⟩ := ih
    simp only [dite_eq_ite] at hrest
    rw [search, if_neg hc]
    exact ⟨n + 1, .step (if_neg hc) hrest⟩

/-- The searches work the roots off, one after the other. -/
theorem searchFrom_steps (g : JoinGraph) (unseen finished roots : List ContainerId) :
    ∃ n left, Steps g n ⟨unseen, finished, [], roots⟩
      ⟨left, g.searchFrom unseen finished roots, [], []⟩ := by
  induction roots generalizing unseen finished with
  | nil => exact ⟨0, unseen, .refl _⟩
  | cons root roots ih =>
    have hstep : g.step? ⟨unseen, finished, [], root :: roots⟩ =
        some ⟨unseen, finished, if root ∈ finished then [] else [root], roots⟩ := rfl
    rw [searchFrom]
    by_cases hroot : root ∈ finished
    · obtain ⟨n, left, hrest⟩ := ih unseen finished
      rw [if_pos hroot] at hstep ⊢
      exact ⟨n + 1, left, .step hstep hrest⟩
    · -- the steps of this root, then those of the others
      obtain ⟨m, hsearch⟩ := g.search_steps unseen finished [root] roots
      obtain ⟨n, left, hrest⟩ := ih (g.search unseen finished [root]).1
        (g.search unseen finished [root]).2
      rw [if_neg hroot] at hstep ⊢
      exact ⟨m + n + 1, left, .step hstep (hsearch.trans hrest)⟩

/-! ### The supply -/

/-- How many looks are left at most: an unseen table stands for itself and all that it pushes. -/
def work (g : JoinGraph) (s : Standing) : Nat :=
  (s.unseen.flatMap fun c => c :: g.successors c).length + s.stack.length + 2 * s.roots.length

/-- **Each look costs one of what is left.** -/
theorem work_lt_of_step? {s s' : Standing} (h : g.step? s = some s') : g.work s' < g.work s := by
  obtain ⟨unseen, finished, stack, roots⟩ := s
  cases stack with
  | cons c stack =>
    by_cases hc : c ∈ unseen
    · -- the table pays for what it pushes, and for itself once it is popped
      obtain rfl := Option.some.inj ((if_pos hc).symm.trans h)
      have hperm := (List.perm_cons_erase hc).flatMap_right fun d => d :: g.successors d
      have hpaid := hperm.length_eq
      have hpushed := List.length_filter_le (· ∈ unseen.erase c) (g.successors c)
      rw [List.flatMap_cons, List.length_append, List.length_cons] at hpaid
      simp only [work, List.length_append, List.length_cons]
      omega
    · obtain rfl := Option.some.inj ((if_neg hc).symm.trans h)
      simp only [work, List.length_cons]
      omega
  | nil =>
    cases roots with
    | nil => exact absurd h (by simp [step?])
    | cons root roots =>
      obtain rfl := Option.some.inj h
      have hpushed : (if root ∈ finished then [] else [root]).length ≤ 1 := by
        split <;> simp
      simp only [work, List.length_cons, List.length_nil]
      omega

/-- So no more looks can be taken than there are in the supply. -/
theorem Steps.le_work {n : Nat} {s s' : Standing} (h : Steps g n s s') : n ≤ g.work s := by
  induction h with
  | refl s => exact Nat.zero_le _
  | step hstep _ ih => exact Nat.lt_of_le_of_lt ih (work_lt_of_step? hstep)

theorem successors_eq (g : JoinGraph) (c : ContainerId) :
    g.successors c = (g.edges.filter (·.1 = c)).map Prod.snd := by
  rw [successors, ← List.filterMap_eq_map, List.filterMap_filter]
  refine List.filterMap_congr fun edge _ => ?_
  obtain ⟨left, right⟩ := edge
  show (if left = c then some right else none) = if decide (left = c) then some right else none
  by_cases hleft : left = c
  · rw [if_pos hleft, decide_eq_true hleft, if_pos rfl]
  · rw [if_neg hleft, decide_eq_false hleft, if_neg Bool.false_ne_true]

/-- Each edge starts from one table, so the tables have as many successors as there are edges. -/
theorem length_flatMap_successors (hnodes : g.nodes.Nodup)
    (hedges : ∀ edge ∈ g.edges, edge.1 ∈ g.nodes) :
    (g.nodes.flatMap g.successors).length = g.edges.length :=
  calc (g.nodes.flatMap g.successors).length
      = ((g.nodes.flatMap fun c => g.edges.filter (·.1 = c)).map Prod.snd).length := by
        rw [List.map_flatMap, funext g.successors_eq]
    _ = (g.nodes.flatMap fun c => g.edges.filter (·.1 = c)).length := List.length_map _
    _ = g.edges.length := (flatMap_filter_perm hnodes Prod.fst hedges).length_eq

theorem work_start (hnodes : g.nodes.Nodup) (hedges : ∀ edge ∈ g.edges, edge.1 ∈ g.nodes) :
    g.work g.start = 3 * g.nodes.length + g.edges.length := by
  -- a node stands for itself and for what it pushes, so every arrow is counted once
  have hcount : ∀ nodes : List ContainerId, (nodes.flatMap fun c => c :: g.successors c).length =
      nodes.length + (nodes.flatMap g.successors).length := by
    intro nodes
    induction nodes with
    | nil => rfl
    | cons c nodes ih =>
      simp only [List.flatMap_cons, List.length_append, List.length_cons, ih]
      omega
  show (g.nodes.flatMap fun c => c :: g.successors c).length + 0 + 2 * g.nodes.reverse.length = _
  rw [hcount, length_flatMap_successors hnodes hedges, List.length_reverse]
  omega

end JoinGraph

/-- **The search ends, and it finishes each table once.** For every list of tables, on which one may
be repeated, and every registry, whatever cycles and parallel joins there are in it and wherever
else its joins lead:

* looks lead from the start of the search to the order of the tables, when nothing is left to look
  at, neither on the stack nor among the roots;
* no more looks can be taken than three for each table and one for each join between them;
* each table of the list stands in the order once, and nothing else does. -/
theorem finishOrder_ends (tables : List ContainerId) (r : JoinRegistry) :
    (∃ n left,
      (JoinGraph.ofTables tables r.inOrder).Steps n (JoinGraph.ofTables tables r.inOrder).start
        ⟨left, finishOrder tables r, [], []⟩) ∧
    (∀ finished left, (JoinGraph.ofTables tables r.inOrder).step? ⟨left, finished, [], []⟩ = none) ∧
    (∀ n s, (JoinGraph.ofTables tables r.inOrder).Steps n
        (JoinGraph.ofTables tables r.inOrder).start s →
      n ≤ 3 * tables.eraseDups.length + (JoinGraph.ofTables tables r.inOrder).edges.length) ∧
    ∀ c, (finishOrder tables r).count c = if c ∈ tables then 1 else 0 := by
  refine ⟨JoinGraph.searchFrom_steps _ _ _ _, fun _ _ => rfl, fun n s hsteps => ?_, fun c => ?_⟩
  · -- an edge starts from a table of the list
    have hedges : ∀ edge ∈ (JoinGraph.ofTables tables r.inOrder).edges,
        edge.1 ∈ (JoinGraph.ofTables tables r.inOrder).nodes := by
      rintro ⟨a, b⟩ hedge
      exact List.mem_eraseDups.mpr (JoinRegistry.mem_edges_ofTables.mp hedge).1
    have hle := hsteps.le_work
    rwa [JoinGraph.work_start (nodup_eraseDups tables) hedges] at hle
  · rw [(JoinRegistry.finishOrder_nodup tables r).count]
    simp only [JoinRegistry.mem_finishOrder]

end VisualQuery
