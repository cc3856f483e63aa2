import VisualQuery.Proofs.JoinGraph.Steps

/-!
# The search is the recursive one

The search of the join graph keeps a stack of its own. Said without one it is a recursion
(`JoinGraph.depthFirst`): the tables are taken from the last one of the list to the first; one that
was visited is passed over; at any other one the right tables of its joins are taken, in the order
these were registered, and when that is done, the table is put in front of the finished ones. The
module shows that both lead to the same order (`finishOrder_eq_depthFirst`).

The stack is not the call stack of the recursion. A table pushes all its unseen successors at once,
so it can stand on the stack several times, and it may have been visited from elsewhere before it
comes up. The recursion knows nothing of this: it looks at a successor when its turn comes. Still
the stack says all that the recursion has to know. A table on it that was seen and is not finished
is one whose recursion is under way, and what lies above it is what this recursion has still to
take. So the recursion can take over from the stack at any look (`JoinGraph.resume`).

That this is so at each look is the simulation (`JoinGraph.Look.complete_eq`): what the recursion
makes of the stack and of the roots that are left is not changed by a look. Before the first look it
is the recursion over the whole list, and behind the last one it is what the search has finished.
-/

namespace VisualQuery

namespace JoinGraph

variable {g : JoinGraph} {unseen finished roots new left : List ContainerId}

/-! ### The recursion -/

/-- How far a recursive search has come, with no more tables unvisited than there were `before`. -/
structure Explored (before : List ContainerId) where
  /-- The tables that were not visited. -/
  unvisited : List ContainerId
  /-- The finished tables, the last one first. -/
  finished : List ContainerId
  /-- No table becomes unvisited again. -/
  length_le : unvisited.length ≤ before.length

/-- **The recursive search**, from tables that are taken one after the other. A table that was
visited is passed over. At any other one the tables `next` to it are taken, and when this recursion
is done, the table is put in front of the finished ones. -/
def depthFirst (next : ContainerId → List ContainerId) (unvisited finished : List ContainerId) :
    (tables : List ContainerId) → Explored unvisited
  | [] => ⟨unvisited, finished, Nat.le_refl _⟩
  | c :: tables =>
    if c ∈ unvisited then
      let below := depthFirst next (unvisited.erase c) finished (next c)
      let rest := depthFirst next below.unvisited (c :: below.finished) tables
      ⟨rest.unvisited, rest.finished,
        Nat.le_trans rest.length_le (Nat.le_trans below.length_le List.length_erase_le)⟩
    else depthFirst next unvisited finished tables
termination_by tables => (unvisited.length, tables.length)
decreasing_by
  · -- the table is visited
    next hc =>
    have hpos := List.length_pos_of_mem hc
    have hlength := List.length_erase_of_mem hc
    exact Prod.Lex.left _ _ (by omega)
  · -- and it stays visited when its recursion is done
    next hc =>
    have hpos := List.length_pos_of_mem hc
    have hlength := List.length_erase_of_mem hc
    exact Prod.Lex.left _ _ (Nat.lt_of_le_of_lt (Explored.length_le _) (by omega))
  · exact Prod.Lex.right _ (by simp)

/-- A visit is a run of the recursion, so what it finishes and what it leaves are determined. -/
theorem Visits.depthFirst_eq (h : Visits g unseen roots new left) (finished : List ContainerId) :
    (depthFirst g.successors unseen finished roots).unvisited = left ∧
      (depthFirst g.successors unseen finished roots).finished = new ++ finished := by
  induction h generalizing finished with
  | nil =>
    rw [depthFirst]
    exact ⟨rfl, rfl⟩
  | skip hc _ ih =>
    rw [depthFirst, if_neg hc]
    exact ih finished
  | @visit unseen roots below between new left c hc _ _ ihbelow ihroots =>
    -- what is below the root is finished first, then the root, then the other roots
    obtain ⟨hbetween, hbelow⟩ := ihbelow finished
    obtain ⟨hleft, hnew⟩ := ihroots (c :: (below ++ finished))
    rw [depthFirst, if_pos hc]
    dsimp only
    rw [hbetween, hbelow]
    refine ⟨hleft, hnew.trans ?_⟩
    rw [List.append_assoc, List.cons_append]

/-! ### Taking over from the stack -/

/-- **What the recursion makes of a stack**, whose top comes first. It takes the tables on it one
after the other, but at a table that was visited and is not finished it ends the recursion that is
under way there. -/
def resume (next : ContainerId → List ContainerId) (unvisited finished : List ContainerId) :
    (stack : List ContainerId) → List ContainerId × List ContainerId
  | [] => (unvisited, finished)
  | c :: stack =>
    if c ∈ unvisited ∨ c ∈ finished then
      let taken := depthFirst next unvisited finished [c]
      resume next taken.unvisited taken.finished stack
    else
      -- what the recursion of the table had still to take lay above it
      resume next unvisited (c :: finished) stack

/-- **The search works off a stack as the recursion does**, whatever is under way on it. -/
theorem search_eq_resume (h : Split unseen finished) (stack : List ContainerId) :
    g.search unseen finished stack = resume g.successors unseen finished stack := by
  induction stack generalizing unseen finished with
  | nil => rw [search, resume]
  | cons c stack ih =>
    by_cases hc : c ∈ unseen ∨ c ∈ finished
    · -- the search of the table alone is a visit, and the stack below is worked off behind it
      have hknown : ∀ d ∈ [c], d ∈ unseen ∨ d ∈ finished := fun d hd =>
        List.mem_singleton.mp hd ▸ hc
      obtain ⟨new, left, hnew, hsearch⟩ := search_visits g [c] h hknown
      obtain ⟨hsplit, -, -⟩ := search_spec g [c] h
      rw [hsearch] at hsplit
      obtain ⟨hleft, hfinished⟩ := hnew.depthFirst_eq finished
      rw [← List.singleton_append, search_append, hsearch, ih hsplit, List.singleton_append,
        resume, if_pos hc]
      dsimp only
      rw [hleft, hfinished]
    · -- the table has come up again after all that it pushed
      obtain ⟨hunseen, hopen⟩ := not_or.mp hc
      have hfinish := h.finish hunseen
      rw [if_neg hopen] at hfinish
      rw [search, if_neg hunseen, if_neg hopen, ih hfinish, resume, if_neg hc]

/-- Searches from several roots take them as the recursion does. -/
theorem searchFrom_eq_depthFirst (h : Split unseen finished)
    (hroots : ∀ c ∈ roots, c ∈ unseen ∨ c ∈ finished) :
    g.searchFrom unseen finished roots =
      (depthFirst g.successors unseen finished roots).finished := by
  obtain ⟨new, left, hnew, hsearch⟩ := searchFrom_visits (g := g) h hroots
  rw [hsearch, (hnew.depthFirst_eq finished).2]

/-! ### Look by look -/

/-- A look, by what it finds. -/
inductive Look (g : JoinGraph) : Standing → Standing → Prop where
  /-- The table on top is seen for the first time. -/
  | see {unseen finished stack roots : List ContainerId} {c : ContainerId} (hc : c ∈ unseen) :
      Look g ⟨unseen, finished, c :: stack, roots⟩
        ⟨unseen.erase c, finished, (g.successors c).filter (· ∈ unseen.erase c) ++ c :: stack,
          roots⟩
  /-- The table on top was seen before. -/
  | pop {unseen finished stack roots : List ContainerId} {c : ContainerId} (hc : c ∉ unseen) :
      Look g ⟨unseen, finished, c :: stack, roots⟩
        ⟨unseen, if c ∈ finished then finished else c :: finished, stack, roots⟩
  /-- The stack is worked off, and the next root is taken. -/
  | root {unseen finished roots : List ContainerId} {c : ContainerId} :
      Look g ⟨unseen, finished, [], c :: roots⟩
        ⟨unseen, finished, if c ∈ finished then [] else [c], roots⟩

theorem look_of_step? {s s' : Standing} (h : g.step? s = some s') : Look g s s' := by
  -- one case for each rule of the step function
  obtain ⟨unseen, finished, stack, roots⟩ := s
  cases stack with
  | cons c stack =>
    by_cases hc : c ∈ unseen
    · obtain rfl := Option.some.inj ((if_pos hc).symm.trans h)
      exact .see hc
    · obtain rfl := Option.some.inj ((if_neg hc).symm.trans h)
      exact .pop hc
  | nil =>
    cases roots with
    | nil => exact absurd h (by simp [step?])
    | cons root roots =>
      obtain rfl := Option.some.inj h
      exact .root

namespace Standing

/-- The order that the recursion makes of a standing: it takes over from the stack, and then it
takes the roots that are left. -/
def complete (next : ContainerId → List ContainerId) (s : Standing) : List ContainerId :=
  let (unvisited, finished) := resume next s.unseen s.finished s.stack
  (depthFirst next unvisited finished s.roots).finished

/-- What is known of a standing at each look. -/
structure Sound (s : Standing) : Prop where
  /-- Each table is on at most one of the two lists, and at most once. -/
  split : Split s.unseen s.finished
  /-- A root that was seen and is not finished is on the stack. -/
  roots_known : ∀ c ∈ s.roots, c ∈ s.unseen ∨ c ∈ s.finished ∨ c ∈ s.stack

/-- On a sound standing the search goes on as the recursion would. -/
theorem Sound.complete_eq {s : Standing} (h : s.Sound) :
    s.complete g.successors =
      g.searchFrom (g.search s.unseen s.finished s.stack).1
        (g.search s.unseen s.finished s.stack).2 s.roots := by
  obtain ⟨hsplit, hmem, -⟩ := search_spec g s.stack h.split
  rw [searchFrom_eq_depthFirst hsplit fun c hc => (hmem c).mpr (h.roots_known c hc),
    search_eq_resume h.split]
  rfl

end Standing

namespace Look

variable {s s' : Standing}

/-- A look keeps what is known. -/
theorem sound (h : Look g s s') (hs : s.Sound) : s'.Sound := by
  obtain ⟨hsplit, hroots⟩ := hs
  cases h with
  | @see unseen finished stack roots c hc =>
    refine ⟨hsplit.see c, fun d hd => ?_⟩
    by_cases hdc : d = c
    · -- the table itself stays on the stack
      exact Or.inr (Or.inr (List.mem_append_right _ (hdc ▸ List.mem_cons_self)))
    · refine Or.imp ?_ (Or.imp_right (List.mem_append_right _)) (hroots d hd)
      exact (List.mem_erase_of_ne hdc).mpr
  | @pop unseen finished stack roots c hc =>
    refine ⟨hsplit.finish hc, fun d hd => ?_⟩
    show d ∈ unseen ∨ (d ∈ if c ∈ finished then finished else c :: finished) ∨ d ∈ stack
    rw [mem_finish]
    rcases hroots d hd with hd | hd | hd
    · exact Or.inl hd
    · exact Or.inr (Or.inl (Or.inr hd))
    · exact Or.inr ((List.mem_cons.mp hd).imp_left Or.inl)
  | root =>
    refine ⟨hsplit, fun d hd => ?_⟩
    rcases hroots d (List.mem_cons_of_mem _ hd) with hd | hd | hd
    · exact Or.inl hd
    · exact Or.inr (Or.inl hd)
    · -- nothing is under way when the stack is empty
      exact absurd hd List.not_mem_nil

/-- **A look does not change what the recursion makes of a standing.** -/
theorem complete_eq (h : Look g s s') (hs : s.Sound) :
    s'.complete g.successors = s.complete g.successors := by
  -- what is left to do is the same search, one step further on
  rw [(h.sound hs).complete_eq, hs.complete_eq]
  cases h with
  | see hc => rw [search.eq_2, if_pos hc]
  | pop hc => rw [search.eq_2, if_neg hc]
  | @root unseen finished roots c =>
    rw [search.eq_1, searchFrom]
    by_cases hc : c ∈ finished
    · rw [if_pos hc, if_pos hc, search]
    · rw [if_neg hc, if_neg hc]

end Look

/-- Nor do any number of looks. -/
theorem Steps.complete_eq {n : Nat} {s s' : Standing} (h : Steps g n s s') (hs : s.Sound) :
    s'.complete g.successors = s.complete g.successors := by
  induction h with
  | refl s => rfl
  | step hstep _ ih =>
    have hlook := look_of_step? hstep
    exact (ih (hlook.sound hs)).trans (hlook.complete_eq hs)

theorem start_sound (hnodes : g.nodes.Nodup) : g.start.Sound where
  split := ⟨hnodes, List.nodup_nil, fun _ hc => absurd hc List.not_mem_nil⟩
  roots_known _ hc := Or.inl (List.mem_reverse.mp hc)

theorem complete_start (hnodes : g.nodes.Nodup) :
    g.start.complete g.successors = g.finishOrder :=
  calc g.start.complete g.successors
      = g.searchFrom (g.search g.nodes [] []).1 (g.search g.nodes [] []).2 g.nodes.reverse :=
        (start_sound hnodes).complete_eq
    _ = g.finishOrder := by rw [search, finishOrder]

end JoinGraph

/-! ### The tables of a list -/

/-- The right tables of the joins that start at a table, in the order the joins were registered.
Joins with an end that is not on the list are left out. -/
def JoinRegistry.rightTables (r : JoinRegistry) (tables : List ContainerId) (c : ContainerId) :
    List ContainerId :=
  (r.inOrder.filter fun j =>
    j.left.container = c ∧ c ∈ tables ∧ j.right.container ∈ tables).map (·.right.container)

theorem JoinRegistry.successors_ofTables (r : JoinRegistry) (tables : List ContainerId) :
    (JoinGraph.ofTables tables r.inOrder).successors = r.rightTables tables := by
  funext c
  rw [JoinGraph.successors, JoinGraph.ofTables, rightTables, List.filterMap_filterMap,
    ← List.filterMap_eq_map, List.filterMap_filter]
  -- both walk the joins in their order; an arrow counts if both its ends are listed
  refine List.filterMap_congr fun j _ => ?_
  simp only [List.mem_eraseDups]
  by_cases hc : j.left.container = c
  · subst hc
    by_cases hends : j.left.container ∈ tables ∧ j.right.container ∈ tables <;> simp [hends]
  · by_cases hends : j.left.container ∈ tables ∧ j.right.container ∈ tables <;> simp [hends, hc]

/-- **The order of the recursive search**: the roots are the distinct tables of the list, the last
one first, and from each table it goes on to the right tables of its joins. -/
def depthFirstOrder (tables : List ContainerId) (r : JoinRegistry) : List ContainerId :=
  let distinct := tables.eraseDups
  (JoinGraph.depthFirst (r.rightTables tables) distinct [] distinct.reverse).finished

/-- **The search with a stack is the recursive search.** For every list of tables, on which one may
be repeated, and every registry, whatever cycles and parallel joins there are in it and wherever
else its joins lead:

* both come to the same order;
* at each look of the search, the recursion could take over from the stack and the roots that are
  left, and it would come to this order too. -/
theorem finishOrder_eq_depthFirst (tables : List ContainerId) (r : JoinRegistry) :
    finishOrder tables r = depthFirstOrder tables r ∧
    ∀ n s, (JoinGraph.ofTables tables r.inOrder).Steps n
        (JoinGraph.ofTables tables r.inOrder).start s →
      s.complete (r.rightTables tables) = depthFirstOrder tables r := by
  have hnodes := nodup_eraseDups tables
  -- before the first look nothing is on the stack, and all tables are roots
  have hstart : (JoinGraph.ofTables tables r.inOrder).start.complete (r.rightTables tables) =
      depthFirstOrder tables r := rfl
  rw [← r.successors_ofTables] at hstart ⊢
  refine ⟨?_, fun n s hsteps => ?_⟩
  · exact (JoinGraph.complete_start hnodes).symm.trans hstart
  · exact (hsteps.complete_eq (JoinGraph.start_sound hnodes)).trans hstart

namespace JoinRegistry

/-- Three tables, each of which is joined to the next one, and the last one to the first. -/
def sampleTriangle : JoinRegistry :=
  ((empty.extend (.sample 10 1 2)).extend (.sample 11 2 3)).extend (.sample 12 3 1)

/-- The sample when the search has come from the last table to the first and from there to the
second, which is finished. -/
def sampleStanding : JoinGraph.Standing :=
  { unseen := []
    finished := [⟨.ofNat 2⟩]
    stack := [⟨.ofNat 1⟩, ⟨.ofNat 3⟩]
    roots := [⟨.ofNat 2⟩, ⟨.ofNat 1⟩] }

/-- Five looks lead to this standing: at the last table as a root, at each of the three tables for
the first time, and at the second one again. The recursion can take over there. -/
theorem finishOrder_eq_depthFirst_sample :
    (JoinGraph.ofTables [⟨.ofNat 1⟩, ⟨.ofNat 2⟩, ⟨.ofNat 3⟩] sampleTriangle.inOrder).Steps 5
        (JoinGraph.ofTables [⟨.ofNat 1⟩, ⟨.ofNat 2⟩, ⟨.ofNat 3⟩] sampleTriangle.inOrder).start
        sampleStanding ∧
      sampleStanding.complete
          (sampleTriangle.rightTables [⟨.ofNat 1⟩, ⟨.ofNat 2⟩, ⟨.ofNat 3⟩]) =
        depthFirstOrder [⟨.ofNat 1⟩, ⟨.ofNat 2⟩, ⟨.ofNat 3⟩] sampleTriangle := by
  have hsteps :
      (JoinGraph.ofTables [⟨.ofNat 1⟩, ⟨.ofNat 2⟩, ⟨.ofNat 3⟩] sampleTriangle.inOrder).Steps 5
        (JoinGraph.ofTables [⟨.ofNat 1⟩, ⟨.ofNat 2⟩, ⟨.ofNat 3⟩] sampleTriangle.inOrder).start
        sampleStanding :=
    .step rfl (.step rfl (.step rfl (.step rfl (.step rfl (.refl _)))))
  exact ⟨hsteps, (finishOrder_eq_depthFirst _ _).2 _ _ hsteps⟩

example : depthFirstOrder [⟨.ofNat 1⟩, ⟨.ofNat 2⟩, ⟨.ofNat 3⟩] sampleTriangle =
    [⟨.ofNat 3⟩, ⟨.ofNat 1⟩, ⟨.ofNat 2⟩] := by cbv

end JoinRegistry

end VisualQuery
