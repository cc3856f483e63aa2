import Mathlib.Data.List.Induction
import Mathlib.Data.List.Nodup
import VisualQuery.JoinGraph

/-!
# The order of the search names each table once

Whatever the joins are, cycles included, the search of the join graph finishes each table exactly
once (`finishOrder_perm`). The search moves tables from those it has not seen to those it has
finished, and what is on its way stands on the stack; `JoinGraph.Split` says that the two lists
never overlap. A single search finishes all that is on its stack, and it loses nothing and invents
nothing (`JoinGraph.search_spec`).

The search for cross joins goes along this order; `startsApart_iff` says at which position it finds
one.
-/

namespace VisualQuery

namespace JoinGraph

variable {unseen finished : List ContainerId}

/-- What the search has not seen and what it has finished, each table on at most one of the lists
and at most once. -/
structure Split (unseen finished : List ContainerId) : Prop where
  /-- No table is unseen twice. -/
  unseen_nodup : unseen.Nodup
  /-- No table is finished twice. -/
  finished_nodup : finished.Nodup
  /-- A finished table was seen. -/
  disjoint : ∀ c ∈ finished, c ∉ unseen

/-- Seeing a table for the first time. -/
theorem Split.see (h : Split unseen finished) (c : ContainerId) :
    Split (unseen.erase c) finished :=
  ⟨h.unseen_nodup.erase c, h.finished_nodup,
    fun d hd hmem => h.disjoint d hd (List.mem_of_mem_erase hmem)⟩

/-- Finishing a table that was seen, unless it is finished already. -/
theorem Split.finish (h : Split unseen finished) {c : ContainerId} (hc : c ∉ unseen) :
    Split unseen (if c ∈ finished then finished else c :: finished) := by
  split
  · exact h
  · next hnot =>
    refine ⟨h.unseen_nodup, List.nodup_cons.mpr ⟨hnot, h.finished_nodup⟩, fun d hd => ?_⟩
    rcases List.mem_cons.mp hd with rfl | hd
    · exact hc
    · exact h.disjoint d hd

theorem mem_finish {c d : ContainerId} :
    (d ∈ if c ∈ finished then finished else c :: finished) ↔ d = c ∨ d ∈ finished := by
  split
  · next hc =>
    refine ⟨Or.inr, ?_⟩
    rintro (rfl | hd)
    · exact hc
    · exact hd
  · exact List.mem_cons

/-- **A search finishes what is on its stack**, and it moves tables, but neither loses any nor finds
any that are new. -/
theorem search_spec (g : JoinGraph) (stack : List ContainerId) (h : Split unseen finished) :
    Split (g.search unseen finished stack).1 (g.search unseen finished stack).2 ∧
      (∀ c, c ∈ (g.search unseen finished stack).1 ∨ c ∈ (g.search unseen finished stack).2 ↔
        c ∈ unseen ∨ c ∈ finished ∨ c ∈ stack) ∧
      ∀ c, c ∈ finished ∨ c ∈ stack → c ∈ (g.search unseen finished stack).2 := by
  induction unseen, finished, stack using JoinGraph.search.induct g with
  | case1 unseen finished =>
    rw [search]
    simpa using h
  | case2 unseen finished c stack hc unseen' ih =>
    -- the table on top is seen, and its successors are put on top of it
    obtain ⟨hsplit, hmem, hdone⟩ := ih (h.see c)
    rw [search, if_pos hc]
    refine ⟨hsplit, fun d => ?_, fun d hd => hdone d ?_⟩
    · rw [hmem]
      have herase : d ∈ unseen.erase c ↔ d ≠ c ∧ d ∈ unseen := h.unseen_nodup.mem_erase_iff
      simp only [unseen', List.mem_append, List.mem_filter, List.mem_cons, decide_eq_true_iff,
        herase]
      by_cases hdc : d = c
      · subst hdc
        simp [hc]
      · simp only [hdc, ne_eq, not_false_iff, true_and, false_or]
        constructor
        · -- a successor that was pushed is one that was not seen
          rintro (hd | hd | ⟨-, hd⟩ | hd)
          · exact Or.inl hd
          · exact Or.inr (Or.inl hd)
          · exact Or.inl hd
          · exact Or.inr (Or.inr hd)
        · rintro (hd | hd | hd)
          · exact Or.inl hd
          · exact Or.inr (Or.inl hd)
          · exact Or.inr (Or.inr (Or.inr hd))
    · rcases hd with hd | hd
      · exact Or.inl hd
      · exact Or.inr (List.mem_append_right _ hd)
  | case3 unseen finished c stack hc ih =>
    -- the table on top is popped and finished
    simp only [dite_eq_ite] at ih
    obtain ⟨hsplit, hmem, hdone⟩ := ih (h.finish hc)
    rw [search, if_neg hc]
    refine ⟨hsplit, fun d => ?_, fun d hd => hdone d ?_⟩
    · rw [hmem, mem_finish, List.mem_cons, or_assoc, or_left_comm (b := d ∈ finished)]
    · rw [mem_finish]
      rcases hd with hd | hd
      · exact Or.inl (Or.inr hd)
      · rcases List.mem_cons.mp hd with rfl | hd
        · exact Or.inl (Or.inl rfl)
        · exact Or.inr hd

/-- Searches from several roots finish all of them, and nothing that was not there. -/
theorem searchFrom_spec (g : JoinGraph) {roots : List ContainerId} (h : Split unseen finished)
    (hroots : ∀ c ∈ roots, c ∈ unseen ∨ c ∈ finished) :
    (g.searchFrom unseen finished roots).Nodup ∧
      (∀ c ∈ g.searchFrom unseen finished roots, c ∈ unseen ∨ c ∈ finished) ∧
      ∀ c, c ∈ finished ∨ c ∈ roots → c ∈ g.searchFrom unseen finished roots := by
  induction roots generalizing unseen finished with
  | nil => exact ⟨h.finished_nodup, fun c hc => Or.inr hc, by simp [searchFrom]⟩
  | cons root roots ih =>
    have hrest : ∀ c ∈ roots, c ∈ unseen ∨ c ∈ finished := fun c hc =>
      hroots c (List.mem_cons_of_mem _ hc)
    rw [searchFrom]
    by_cases hroot : root ∈ finished
    · obtain ⟨hnd, hsub, hdone⟩ := ih h hrest
      rw [if_pos hroot]
      refine ⟨hnd, hsub, fun c hc => hdone c ?_⟩
      rcases hc with hc | hc
      · exact Or.inl hc
      · rcases List.mem_cons.mp hc with rfl | hc
        · exact Or.inl hroot
        · exact Or.inr hc
    · obtain ⟨hsplit, hmem, hfinish⟩ := search_spec g [root] h
      -- the root was there, so the search brings nothing new
      have hold : ∀ c, c ∈ (g.search unseen finished [root]).1 ∨
          c ∈ (g.search unseen finished [root]).2 ↔ c ∈ unseen ∨ c ∈ finished := by
        intro c
        rw [hmem, List.mem_singleton, ← or_assoc, or_iff_left_iff_imp]
        rintro rfl
        exact hroots c List.mem_cons_self
      obtain ⟨hnd, hsub, hdone⟩ := ih hsplit fun c hc => (hold c).mpr (hrest c hc)
      rw [if_neg hroot]
      refine ⟨hnd, fun c hc => (hold c).mp (hsub c hc), fun c hc => hdone c ?_⟩
      rcases hc with hc | hc
      · exact Or.inl (hfinish c (Or.inl hc))
      · rcases List.mem_cons.mp hc with rfl | hc
        · exact Or.inl (hfinish c (Or.inr (List.mem_singleton_self c)))
        · exact Or.inr hc

/-- **The search finishes every table of the graph once.** -/
theorem finishOrder_perm (g : JoinGraph) (hnodes : g.nodes.Nodup) :
    g.finishOrder.Perm g.nodes := by
  -- at the start nothing is seen, and every node is a root
  have hsplit : Split g.nodes [] :=
    ⟨hnodes, List.nodup_nil, fun c hc => absurd hc List.not_mem_nil⟩
  have hroots : ∀ c ∈ g.nodes.reverse, c ∈ g.nodes ∨ c ∈ [] := fun c hc =>
    Or.inl (List.mem_reverse.mp hc)
  obtain ⟨hnd, hsub, hdone⟩ := searchFrom_spec g hsplit hroots
  rw [finishOrder, List.perm_ext_iff_of_nodup hnd hnodes]
  intro c
  constructor
  · intro hc
    exact (hsub c hc).resolve_right List.not_mem_nil
  · intro hc
    exact hdone c (Or.inr (List.mem_reverse.mpr hc))

end JoinGraph

theorem nodup_eraseDups (l : List ContainerId) : l.eraseDups.Nodup := by
  induction l using List.reverseRecOn with
  | nil => exact List.nodup_nil
  | append_singleton l c ih =>
    rw [List.eraseDups_append]
    by_cases hc : c ∈ l
    · simpa [List.removeAll, hc] using ih
    · -- the last element stays if it was not met before
      have hlast : ([c].removeAll l).eraseDups = [c] := by
        simp [List.removeAll, hc, List.eraseDups_cons]
      rw [hlast]
      refine List.nodup_append.mpr ⟨ih, List.nodup_singleton c, ?_⟩
      rintro d hd e he rfl
      exact hc (List.mem_singleton.mp he ▸ List.mem_eraseDups.mp hd)

theorem eraseDups_of_nodup {l : List ContainerId} (h : l.Nodup) : l.eraseDups = l := by
  induction l with
  | nil => rfl
  | cons c l ih =>
    rw [List.nodup_cons] at h
    have hfilter : l.filter (fun d => !d == c) = l := by
      rw [List.filter_eq_self]
      intro d hd
      have hdc : d ≠ c := fun heq => h.1 (heq ▸ hd)
      simpa using hdc
    rw [List.eraseDups_cons, hfilter, ih h.2]

/-- **A statement names each table of the list once**, whatever the joins are. -/
theorem finishOrder_perm (tables : List ContainerId) (r : JoinRegistry) :
    (finishOrder tables r).Perm tables.eraseDups :=
  JoinGraph.finishOrder_perm _ (nodup_eraseDups tables)

/-- Tables that are on the list once are named as they are listed, in another order. -/
theorem finishOrder_perm_of_nodup {tables : List ContainerId} (h : tables.Nodup)
    (r : JoinRegistry) : (finishOrder tables r).Perm tables := by
  have hperm := finishOrder_perm tables r
  rwa [eraseDups_of_nodup h] at hperm

/-! ### Collecting table by table -/

/-- Collecting by the value of a function, for all its values one after the other, loses nothing and
repeats nothing. -/
theorem flatMap_filter_perm {α : Type} {keys : List ContainerId} (hnd : keys.Nodup)
    (f : α → ContainerId) {l : List α} (hf : ∀ a ∈ l, f a ∈ keys) :
    (keys.flatMap fun c => l.filter (f · = c)).Perm l := by
  induction keys generalizing l with
  | nil =>
    rw [List.eq_nil_iff_forall_not_mem.mpr fun a ha => absurd (hf a ha) List.not_mem_nil]
    exact .nil
  | cons c keys ih =>
    obtain ⟨hc, hnd⟩ := List.nodup_cons.mp hnd
    -- what has another value is collected from what is left without this one
    have hrest : ∀ d ∈ keys,
        l.filter (f · = d) = (l.filter fun a => !decide (f a = c)).filter (f · = d) := by
      intro d hd
      rw [List.filter_filter]
      refine List.filter_congr fun a _ => ?_
      by_cases had : f a = d
      · have hac : f a ≠ c := fun hac => hc (hac ▸ had ▸ hd)
        simp [had, had ▸ hac]
      · simp [had]
    have hleft : ∀ a ∈ l.filter (fun a => !decide (f a = c)), f a ∈ keys := by
      intro a ha
      obtain ⟨ha, hac⟩ := List.mem_filter.mp ha
      exact (List.mem_cons.mp (hf a ha)).resolve_left (by simpa using hac)
    rw [List.flatMap_cons, List.flatMap_congr hrest]
    exact ((ih hnd hleft).append_left _).trans (List.filter_append_perm _ l)

/-! ### Positions in an order -/

/-- Where a table stands in an order that names each once. -/
theorem idxOf_of_getElem? {order : List ContainerId} (hnd : order.Nodup) {i : Nat}
    {c : ContainerId} (hc : order[i]? = some c) : order.idxOf c = i := by
  obtain ⟨hi, rfl⟩ := List.getElem?_eq_some_iff.mp hc
  exact hnd.idxOf_getElem i hi

/-- Some table of a sequence has no join to an earlier one, if it is not the first. -/
theorem startsApart_iff {r : JoinRegistry} {earlier cs : List ContainerId} :
    startsApart r earlier cs = true ↔
      ∃ i c, cs[i]? = some c ∧ earlier ++ cs.take i ≠ [] ∧
        ∀ d ∈ earlier ++ cs.take i, r.areJoined c d = false := by
  induction cs generalizing earlier with
  | nil => simp [startsApart]
  | cons c cs ih =>
    rw [startsApart, Bool.or_eq_true, ih]
    constructor
    · rintro (hfirst | ⟨i, d, hd, hne, hapart⟩)
      · -- the first table of the rest, with none between it and the earlier ones
        rw [Bool.and_eq_true, Bool.not_eq_true', Bool.not_eq_true', List.isEmpty_eq_false_iff,
          List.any_eq_false] at hfirst
        refine ⟨0, c, rfl, ?_, ?_⟩
        · rw [List.take_zero, List.append_nil]
          exact hfirst.1
        · intro d hd
          rw [List.take_zero, List.append_nil] at hd
          simpa using hfirst.2 d hd
      · refine ⟨i + 1, d, hd, ?_, ?_⟩
        · rwa [List.take_succ_cons, List.append_cons]
        · rwa [List.take_succ_cons, List.append_cons]
    · rintro ⟨i, d, hd, hne, hapart⟩
      cases i with
      | zero =>
        rw [List.getElem?_cons_zero, Option.some_inj] at hd
        subst hd
        rw [List.take_zero, List.append_nil] at hne hapart
        refine Or.inl ?_
        rw [Bool.and_eq_true, Bool.not_eq_true', Bool.not_eq_true', List.isEmpty_eq_false_iff,
          List.any_eq_false]
        exact ⟨hne, fun d hd => by rw [hapart d hd]; exact Bool.false_ne_true⟩
      | succ i =>
        rw [List.take_succ_cons, List.append_cons] at hne hapart
        exact Or.inr ⟨i, d, hd, hne, hapart⟩

end VisualQuery
