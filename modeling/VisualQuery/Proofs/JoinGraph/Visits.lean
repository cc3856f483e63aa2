import VisualQuery.Proofs.JoinGraph

/-!
# The search as a recursion

The search of the join graph keeps a stack, but what it does can be said without one. Visiting
tables, one after the other, skips a table that was seen before; of any other table it visits the
successors, and then finishes the table itself. `JoinGraph.Visits` says this as a relation, and
`JoinGraph.finishOrder_visits` says that a statement names its tables in the order that visiting
all of them gives, the last one of the list first.

The two differ in what they know of a successor. The stack takes a successor on only if it is
unseen, and looks at it later, when it may have been seen by then; the recursion looks at all of
them when their turn comes. `Visits.of_filter` closes this gap. What lies below on the stack does
not matter to what is above it (`JoinGraph.search_append`), so the search of the successors is a
visit by itself, after which the table that pushed them is on top again.
-/

namespace VisualQuery

namespace JoinGraph

variable {g : JoinGraph} {unseen finished roots left new : List ContainerId}

/-- **Visiting tables, one after the other.** `Visits g unseen roots new left` says that, of the
tables that are `unseen`, visiting the `roots` finishes those in `new`, the last one first, and
leaves those in `left`. -/
inductive Visits (g : JoinGraph) : (unseen roots new left : List ContainerId) → Prop where
  /-- No table is visited. -/
  | nil {unseen : List ContainerId} : Visits g unseen [] [] unseen
  /-- A table that was seen is skipped. -/
  | skip {unseen roots new left : List ContainerId} {c : ContainerId} (hc : c ∉ unseen)
      (hroots : Visits g unseen roots new left) : Visits g unseen (c :: roots) new left
  /-- Any other table is finished once its successors were visited. -/
  | visit {unseen roots below between new left : List ContainerId} {c : ContainerId}
      (hc : c ∈ unseen) (hbelow : Visits g (unseen.erase c) (g.successors c) below between)
      (hroots : Visits g between roots new left) :
      Visits g unseen (c :: roots) (new ++ c :: below) left

namespace Visits

/-- **A visit moves tables**: each that was unseen is finished or left. -/
theorem perm (h : Visits g unseen roots new left) : unseen.Perm (new ++ left) := by
  induction h with
  | nil => exact .refl _
  | skip _ _ ih => exact ih
  | @visit unseen roots below between new left c hc _ _ ihbelow ihroots =>
    -- what was unseen is the node, what is found below it, and what the other roots find or leave
    calc unseen.Perm (c :: unseen.erase c) := List.perm_cons_erase hc
      _ |>.Perm (c :: (below ++ between)) := ihbelow.cons c
      _ |>.Perm (c :: below ++ (new ++ left)) := ihroots.append_left (c :: below)
      _ |>.Perm ((new ++ c :: below) ++ left) := by
        rw [← List.append_assoc]
        exact List.perm_append_comm.append_right left

theorem left_subset (h : Visits g unseen roots new left) : left ⊆ unseen := fun _ hc =>
  h.perm.mem_iff.mpr (List.mem_append_right _ hc)

theorem new_subset (h : Visits g unseen roots new left) : new ⊆ unseen := fun _ hc =>
  h.perm.mem_iff.mpr (List.mem_append_left _ hc)

/-- Two visits, one after the other. -/
theorem append {roots' new' left' : List ContainerId} (h : Visits g unseen roots new left)
    (h' : Visits g left roots' new' left') :
    Visits g unseen (roots ++ roots') (new' ++ new) left' := by
  induction h with
  | nil => rwa [List.append_nil]
  | skip hc _ ih => exact (ih h').skip hc
  | visit hc hbelow _ _ ih =>
    rw [← List.append_assoc]
    exact .visit hc hbelow (ih h')

/-- It does not matter whether tables that were seen already are among the roots. -/
theorem of_filter {known : List ContainerId} (hknown : unseen ⊆ known)
    (h : Visits g unseen (roots.filter (· ∈ known)) new left) :
    Visits g unseen roots new left := by
  induction roots generalizing unseen new with
  | nil => exact h
  | cons c roots ih =>
    rw [List.filter_cons] at h
    split at h
    · cases h with
      | skip hc hroots => exact (ih hknown hroots).skip hc
      | visit hc hbelow hroots =>
        have hbetween :=
          List.Subset.trans hbelow.left_subset (List.Subset.trans List.erase_subset hknown)
        exact .visit hc hbelow (ih hbetween hroots)
    · -- a root that is not known is not unseen either, so it is skipped
      next hc => exact (ih hknown h).skip fun hmem => hc (decide_eq_true (hknown hmem))

end Visits

/-! ### The stack -/

/-- The search works off the stack from the top. -/
theorem search_append (g : JoinGraph) (unseen finished stack stack' : List ContainerId) :
    g.search unseen finished (stack ++ stack') =
      g.search (g.search unseen finished stack).1 (g.search unseen finished stack).2 stack' := by
  -- on the search itself: the stack below is not touched before the upper one is empty
  induction unseen, finished, stack using JoinGraph.search.induct g with
  | case1 unseen finished => rw [search.eq_1 g unseen finished, List.nil_append]
  | case2 unseen finished c stack hc unseen' ih =>
    rw [List.append_assoc, List.cons_append] at ih
    rw [List.cons_append, search, if_pos hc, search.eq_2 g unseen finished c stack, if_pos hc]
    exact ih
  | case3 unseen finished c stack hc ih =>
    simp only [dite_eq_ite] at ih
    rw [List.cons_append, search, if_neg hc, search.eq_2 g unseen finished c stack, if_neg hc]
    exact ih

/-- **A search is a visit**, if nothing on its stack was seen without being finished. -/
theorem search_visits (g : JoinGraph) {unseen finished : List ContainerId} :
    (roots : List ContainerId) → Split unseen finished →
      (∀ c ∈ roots, c ∈ unseen ∨ c ∈ finished) →
      ∃ new left, Visits g unseen roots new left ∧
        g.search unseen finished roots = (left, new ++ finished)
  | [], _, _ => ⟨[], unseen, .nil, by rw [search, List.nil_append]⟩
  | c :: roots, h, hroots => by
    have hrest : ∀ d ∈ roots, d ∈ unseen ∨ d ∈ finished := fun d hd =>
      hroots d (List.mem_cons_of_mem _ hd)
    by_cases hc : c ∈ unseen
    · -- the successors are visited on top of the table
      have hlength := List.length_erase_of_mem hc
      have hpos := List.length_pos_of_mem hc
      obtain ⟨below, between, hbelow, hsearch⟩ := search_visits g
        ((g.successors c).filter (· ∈ unseen.erase c)) (h.see c)
        fun d hd => Or.inl (of_decide_eq_true (List.mem_filter.mp hd).2)
      obtain ⟨hsplit, hmem, -⟩ :=
        search_spec g ((g.successors c).filter (· ∈ unseen.erase c)) (h.see c)
      rw [hsearch] at hsplit hmem
      have hshorter : between.length < unseen.length := by
        have hle := hbelow.perm.length_eq
        rw [List.length_append] at hle
        omega
      -- then the table is on top again, neither unseen nor finished
      have hseen : c ∉ unseen.erase c := h.unseen_nodup.not_mem_erase
      have hbetween : c ∉ between := fun hmem => hseen (hbelow.left_subset hmem)
      have hopen : c ∉ below ++ finished := by
        rw [List.mem_append, not_or]
        exact ⟨fun hmem => hseen (hbelow.new_subset hmem), fun hmem => h.disjoint c hmem hc⟩
      have hfinish := hsplit.finish hbetween
      rw [if_neg hopen] at hfinish
      obtain ⟨new, left, hnew, hrestSearch⟩ := search_visits g roots hfinish fun d hd => by
        by_cases hdc : d = c
        · exact Or.inr (hdc ▸ List.mem_cons_self)
        · refine Or.imp_right (List.mem_cons_of_mem c) ((hmem d).mpr ?_)
          rw [List.mem_erase_of_ne hdc]
          exact Or.imp_right Or.inl (hrest d hd)
      refine ⟨new ++ c :: below, left, .visit hc (hbelow.of_filter (List.Subset.refl _)) hnew, ?_⟩
      rw [search, if_pos hc, search_append, hsearch, search, if_neg hbetween, if_neg hopen,
        hrestSearch, List.append_assoc, List.cons_append]
    · -- a table that comes up again is finished
      have hdone : c ∈ finished := (hroots c List.mem_cons_self).resolve_left hc
      obtain ⟨new, left, hnew, hsearch⟩ := search_visits g roots h hrest
      refine ⟨new, left, hnew.skip hc, ?_⟩
      rw [search, if_neg hc, if_pos hdone, hsearch]
termination_by roots => (unseen.length, roots.length)

/-- Searches from several roots are one visit of them. -/
theorem searchFrom_visits (h : Split unseen finished)
    (hroots : ∀ c ∈ roots, c ∈ unseen ∨ c ∈ finished) :
    ∃ new left, Visits g unseen roots new left ∧
      g.searchFrom unseen finished roots = new ++ finished := by
  induction roots generalizing unseen finished with
  | nil => exact ⟨[], unseen, .nil, rfl⟩
  | cons root roots ih =>
    have hrest : ∀ c ∈ roots, c ∈ unseen ∨ c ∈ finished := fun c hc =>
      hroots c (List.mem_cons_of_mem _ hc)
    rw [searchFrom]
    by_cases hroot : root ∈ finished
    · obtain ⟨new, left, hnew, hsearch⟩ := ih h hrest
      exact ⟨new, left, hnew.skip (h.disjoint root hroot), by rw [if_pos hroot, hsearch]⟩
    · have hroot' : ∀ c ∈ [root], c ∈ unseen ∨ c ∈ finished := fun c hc =>
        hroots c (List.mem_singleton.mp hc ▸ List.mem_cons_self)
      -- after the first root the nodes are split anew, and the induction goes on from there
      obtain ⟨first, between, hfirst, hsearch⟩ := search_visits g [root] h hroot'
      obtain ⟨hsplit, hmem, -⟩ := search_spec g [root] h
      rw [hsearch] at hsplit hmem
      obtain ⟨new, left, hnew, hsearchFrom⟩ := ih hsplit fun c hc =>
        (hmem c).mpr (by rw [← or_assoc]; exact Or.inl (hrest c hc))
      refine ⟨new ++ first, left, hfirst.append hnew, ?_⟩
      rw [if_neg hroot, hsearch, List.append_assoc]
      exact hsearchFrom

/-- **The order of the tables comes about by visiting all of them**, the last one first. -/
theorem finishOrder_visits (g : JoinGraph) (hnodes : g.nodes.Nodup) :
    Visits g g.nodes g.nodes.reverse g.finishOrder [] := by
  have hsplit : Split g.nodes [] :=
    ⟨hnodes, List.nodup_nil, fun c hc => absurd hc List.not_mem_nil⟩
  obtain ⟨new, left, hnew, hsearch⟩ := searchFrom_visits (g := g) hsplit fun c hc =>
    Or.inl (List.mem_reverse.mp hc)
  rw [List.append_nil] at hsearch
  rw [finishOrder, hsearch]
  -- every table is finished, so none is left
  have hlength := ((g.finishOrder_perm hnodes).trans hnew.perm).length_eq
  rw [finishOrder, hsearch, List.length_append] at hlength
  rwa [List.length_eq_zero_iff.mp (show left.length = 0 by omega)] at hnew

end JoinGraph

end VisualQuery
