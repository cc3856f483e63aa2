import VisualQuery.Proofs.JoinGraph.Cycles

/-!
# Where a search starts

A visit comes to a table in one of two ways: along an edge from a table that is still being visited,
which stands before it in the order, or because the table is one of the roots. In the second case
everything that the table leads to is finished by then or finished below it. So no edge leaves the
part of the order that begins with the table (`Visits.entered_or_root`).

The last table of the list is always a root, and the search comes to it before any other one. It
finishes what the table leads to and nothing else (`finishOrder_of_last`).

A table to which no edge leads can only be a root, so a visit meets such tables in the order of its
roots, whatever it finishes in between (`Visits.filter_new`). The roots are the list backwards and
the order is built from its end, so they come out in the order of the list
(`JoinRegistry.finishOrder_starts`).
-/

namespace VisualQuery

open Relation (ReflTransGen TransGen)

namespace JoinGraph

variable {g : JoinGraph} {unseen roots new left nodes : List ContainerId} {a b c : ContainerId}

namespace Visits

/-- An edge from a finished table does not lead to one that is left unseen. -/
theorem closed (h : Visits g unseen roots new left) (ha : a ∈ new) (hb : b ∈ unseen)
    (hedge : (a, b) ∈ g.edges) : b ∈ new := by
  by_cases hab : a = b
  · rwa [← hab]
  · rcases h.edge hedge ha hb hab with hbefore | hpath
    · exact hbefore.right_mem
    · -- the way back begins in the order
      obtain ⟨d, hfirst, -⟩ := TransGen.head'_iff.mp hpath
      exact hfirst.2.left_mem

/-- **A table was entered or is a root.** Some edge leads to it from an earlier table of the order,
or no edge leaves the part of the order that begins with it. -/
theorem entered_or_root (h : Visits g unseen roots new left) (hc : c ∈ new) :
    (∃ a, g.LeadsOn new a c) ∨
      ∃ later earlier, new = later ++ c :: earlier ∧
        ∀ a ∈ c :: earlier, ∀ b ∈ unseen, (a, b) ∈ g.edges → b ∈ c :: earlier := by
  induction h with
  | nil => exact absurd hc List.not_mem_nil
  | skip _ _ ih => exact ih hc
  | @visit unseen roots below between new left d hd hbelow hroots ihbelow ih =>
    have hsub : (d :: below).Sublist (new ++ d :: below) := List.sublist_append_right _ _
    -- the table with what is below it is a visit by itself, so no edge leaves it
    have hinner : ∀ a ∈ d :: below, ∀ b ∈ unseen, (a, b) ∈ g.edges → b ∈ d :: below := by
      intro a ha b hb hedge
      have honly : Visits g unseen [d] ([] ++ d :: below) between := .visit hd hbelow .nil
      exact honly.closed ha hb hedge
    rcases List.mem_append.mp hc with hc | hc
    · rcases ih hc with ⟨a, ha⟩ | ⟨later, earlier, hnew, hclosed⟩
      · exact Or.inl ⟨a, leadsOn_mono (List.sublist_append_left _ _) _ _ ha⟩
      · refine Or.inr ⟨later, earlier ++ d :: below, by rw [hnew, List.append_assoc,
          List.cons_append], ?_⟩
        intro a ha b hb hedge
        rw [← List.cons_append] at ha ⊢
        rcases List.mem_append.mp ha with ha | ha
        · -- the edge leads to the table below or to what was left for the other roots
          by_cases hbd : b = d
          · exact List.mem_append_right _ (hbd ▸ List.mem_cons_self)
          · have hwhere := hbelow.perm.mem_iff.mp ((List.mem_erase_of_ne hbd).mpr hb)
            rcases List.mem_append.mp hwhere with hmem | hmem
            · exact List.mem_append_right _ (List.mem_cons_of_mem _ hmem)
            · exact List.mem_append_left _ (hclosed a ha b hmem hedge)
        · exact List.mem_append_right _ (hinner a ha b hb hedge)
    · rcases List.mem_cons.mp hc with rfl | hlow
      · exact Or.inr ⟨new, below, rfl, hinner⟩
      · -- below the table, either an edge from it enters, or one from a table further up
        obtain ⟨root, hroot, hrootnew, hpath⟩ := hbelow.reached hlow
        rcases ReflTransGen.cases_tail hpath with heq | ⟨a, -, hlast⟩
        · refine Or.inl ⟨d, mem_successors.mp (heq ▸ hroot), ?_⟩
          exact (StandsBefore.of_mem_cons hlow).mono hsub
        · exact Or.inl ⟨a, leadsOn_mono ((List.sublist_cons_self d below).trans hsub) _ _ hlast⟩

end Visits

/-! ### Tables that no edge leads to -/

namespace Visits

variable {p : ContainerId → Bool}

/-- Such a table is only finished if it is a root. -/
theorem filter_new_eq_nil (h : Visits g unseen roots new left)
    (hp : ∀ c, p c = true → ∀ a, (a, c) ∉ g.edges) (hroots : ∀ c ∈ roots, p c = false) :
    new.filter p = [] := by
  rw [List.filter_eq_nil_iff]
  intro c hc hpc
  obtain ⟨root, hroot, -, hpath⟩ := h.reached hc
  rcases ReflTransGen.cases_tail hpath with heq | ⟨a, -, hlast⟩
  · rw [heq, hroots root hroot] at hpc
    exact Bool.false_ne_true hpc
  · exact hp c hpc a hlast.1

/-- **Tables that no edge leads to are finished in the order of the roots.** -/
theorem filter_new (h : Visits g unseen roots new left)
    (hp : ∀ c, p c = true → ∀ a, (a, c) ∉ g.edges) (hnd : roots.Nodup) :
    new.filter p = (roots.filter fun c => p c && decide (c ∈ unseen)).reverse := by
  induction h with
  | nil => rfl
  | @skip unseen roots new left c hc _ ih =>
    rw [List.filter_cons, decide_eq_false hc, Bool.and_false, if_neg Bool.false_ne_true]
    exact ih (List.nodup_cons.mp hnd).2
  | @visit unseen roots below between new left c hc hbelow _ _ ih =>
    obtain ⟨hroot, hnd⟩ := List.nodup_cons.mp hnd
    -- an edge leads to each table that is visited below this one
    have hnone : below.filter p = [] := by
      refine hbelow.filter_new_eq_nil hp fun d hd => Bool.eq_false_iff.mpr fun hpd => ?_
      exact hp d hpd c (mem_successors.mp hd)
    -- so the visit below takes none of those that are still to come
    have hkept : (roots.filter fun d => p d && decide (d ∈ between)) =
        roots.filter fun d => p d && decide (d ∈ unseen) := by
      refine List.filter_congr fun d hd => ?_
      cases hpd : p d with
      | false => rfl
      | true =>
        rw [Bool.true_and, Bool.true_and, decide_eq_decide]
        have hdc : d ≠ c := fun heq => hroot (heq ▸ hd)
        have hlow : d ∉ below := fun hmem => List.filter_eq_nil_iff.mp hnone d hmem hpd
        rw [← List.mem_erase_of_ne (l := unseen) hdc, hbelow.perm.mem_iff, List.mem_append,
          or_iff_right hlow]
    rw [List.filter_append, List.filter_cons, hnone, ih hnd, hkept, List.filter_cons,
      decide_eq_true hc, Bool.and_true]
    cases p c with
    | false => rw [if_neg Bool.false_ne_true, if_neg Bool.false_ne_true, List.append_nil]
    | true => rw [if_pos rfl, if_pos rfl, List.reverse_cons]

end Visits

/-- In the order of the search they stand as they are listed. -/
theorem finishOrder_filter (g : JoinGraph) (hnodes : g.nodes.Nodup) {p : ContainerId → Bool}
    (hp : ∀ c, p c = true → ∀ a, (a, c) ∉ g.edges) :
    g.finishOrder.filter p = g.nodes.filter p := by
  have hall : (g.nodes.filter fun c => p c && decide (c ∈ g.nodes)) = g.nodes.filter p :=
    List.filter_congr fun c hc => by rw [decide_eq_true hc, Bool.and_true]
  rw [(g.finishOrder_visits hnodes).filter_new hp (List.nodup_reverse.mpr hnodes),
    List.filter_reverse, List.reverse_reverse, hall]

/-! ### The order of the search -/

/-- The same for the order of the search. -/
theorem finishOrder_entered_or_root (g : JoinGraph) (hnodes : g.nodes.Nodup) (hc : c ∈ g.nodes) :
    (∃ a, g.LeadsOn g.finishOrder a c) ∨
      ∃ later earlier, g.finishOrder = later ++ c :: earlier ∧
        ∀ a ∈ c :: earlier, ∀ b ∈ g.nodes, (a, b) ∈ g.edges → b ∈ c :: earlier :=
  (g.finishOrder_visits hnodes).entered_or_root ((g.finishOrder_perm hnodes).mem_iff.mpr hc)

/-- **The last table of the list is the first root.** The order ends with it and the tables that it
leads to, and edges that lead to later tables of the order reach all of these. -/
theorem finishOrder_of_last (g : JoinGraph) (hnodes : g.nodes.Nodup)
    (hlast : g.nodes = nodes ++ [c]) :
    ∃ later below, g.finishOrder = later ++ c :: below ∧
      (∀ t ∈ c :: below, ReflTransGen (g.LeadsOn g.finishOrder) c t) ∧
      ∀ a ∈ c :: below, ∀ b ∈ g.nodes, (a, b) ∈ g.edges → b ∈ c :: below := by
  have hc : c ∈ g.nodes := hlast ▸ List.mem_append_right _ (List.mem_singleton_self c)
  have hvisits := g.finishOrder_visits hnodes
  rw [show g.nodes.reverse = c :: nodes.reverse by rw [hlast, List.reverse_concat]] at hvisits
  generalize horder : g.finishOrder = order at hvisits
  cases hvisits with
  | skip hnot _ => exact absurd hc hnot
  | @visit _ _ below between later _ _ _ hbelow hroots =>
    -- the last node is the first root, so what is found from it does not depend on the others
    have honly : Visits g g.nodes [c] ([] ++ c :: below) between := .visit hc hbelow .nil
    refine ⟨later, below, rfl, ?_, fun a ha b hb hedge => honly.closed ha hb hedge⟩
    intro t ht
    obtain ⟨root, hroot, -, hpath⟩ := honly.reached ht
    rw [List.mem_singleton.mp hroot] at hpath
    exact ReflTransGen.mono (leadsOn_mono (List.sublist_append_right _ _)) _ _ hpath

end JoinGraph

/-! ### The order of the list -/

section FirstPlaces

variable {l : List ContainerId} {a b : ContainerId}

theorem idxOf_cons_lt_iff {c : ContainerId} :
    (c :: l).idxOf a < (c :: l).idxOf b ↔ c ≠ b ∧ (c = a ∨ l.idxOf a < l.idxOf b) := by
  by_cases hcb : c = b
  · rw [hcb, List.idxOf_cons_self]
    exact ⟨fun hlt => absurd hlt (Nat.not_lt_zero _), fun hne => absurd rfl hne.1⟩
  · rw [List.idxOf_cons_ne _ hcb, and_iff_right hcb]
    by_cases hca : c = a
    · rw [hca, List.idxOf_cons_self]
      exact ⟨fun _ => Or.inl rfl, fun _ => Nat.succ_pos _⟩
    · rw [List.idxOf_cons_ne _ hca, or_iff_right hca]
      exact Nat.succ_lt_succ_iff

/-- Where some are picked from a list, their first places stay in order. -/
theorem idxOf_filter_lt_iff {p : ContainerId → Bool} (ha : p a = true) (hb : p b = true) :
    (l.filter p).idxOf a < (l.filter p).idxOf b ↔ l.idxOf a < l.idxOf b := by
  induction l with
  | nil => rfl
  | cons c l ih =>
    rw [List.filter_cons, idxOf_cons_lt_iff]
    split
    · rw [idxOf_cons_lt_iff, ih]
    · -- an element that is left out is neither of the two, so it moves both alike
      next hc =>
      have hca : c ≠ a := fun heq => hc (heq ▸ ha)
      have hcb : c ≠ b := fun heq => hc (heq ▸ hb)
      rw [ih, and_iff_right hcb, or_iff_right hca]

/-- Without the repetitions of a list, the first places of its members stay in order. -/
theorem idxOf_eraseDups_lt_iff (l : List ContainerId) (a b : ContainerId) :
    l.eraseDups.idxOf a < l.eraseDups.idxOf b ↔ l.idxOf a < l.idxOf b := by
  induction hlength : l.length using Nat.strongRecOn generalizing l with
  | ind n ih =>
    cases l with
    | nil => rfl
    | cons c l =>
      -- the first member goes ahead, and the others are those of the rest that differ from it
      have hshorter : (l.filter fun d => !d == c).length < n := by
        rw [← hlength]
        exact Nat.lt_succ_of_le (List.length_filter_le _ _)
      have hrest := ih _ hshorter _ rfl
      rw [List.eraseDups_cons, idxOf_cons_lt_iff, idxOf_cons_lt_iff]
      refine and_congr_right fun hcb => ?_
      by_cases hca : c = a
      · rw [hca]
        exact iff_of_true (Or.inl rfl) (Or.inl rfl)
      · rw [or_iff_right hca, or_iff_right hca, hrest,
          idxOf_filter_lt_iff (by simp [Ne.symm hca]) (by simp [Ne.symm hcb])]

end FirstPlaces

namespace JoinRegistry

/-- **Starting tables keep the order of the list.** For every list of tables, on which one may be
repeated, and every registry:

* two tables of the list to which no join leads from a table of the list stand in the order of the
  search as they are first listed, whatever is joined around them;
* if no join leads from a table of the list to another one of it, the order is the list without its
  repetitions. -/
theorem finishOrder_starts (tables : List ContainerId) (r : JoinRegistry) :
    (∀ a ∈ tables, ∀ b ∈ tables,
      (∀ j ∈ r.inOrder, j.left.container ∈ tables → j.right.container ≠ a) →
      (∀ j ∈ r.inOrder, j.left.container ∈ tables → j.right.container ≠ b) →
      ((finishOrder tables r).idxOf a < (finishOrder tables r).idxOf b ↔
        tables.idxOf a < tables.idxOf b)) ∧
    ((∀ j ∈ r.inOrder, j.left.container ∈ tables → j.right.container ∉ tables) →
      finishOrder tables r = tables.eraseDups) := by
  have hnodes := nodup_eraseDups tables
  constructor
  · intro a _ b _ ha hb
    let p : ContainerId → Bool := fun c =>
      r.inOrder.all fun j => decide (j.left.container ∈ tables → j.right.container ≠ c)
    have hpiff : ∀ c, p c = true ↔
        ∀ j ∈ r.inOrder, j.left.container ∈ tables → j.right.container ≠ c := fun c => by
      simp only [p, List.all_eq_true, decide_eq_true_iff]
    have hp : ∀ c, p c = true → ∀ d, (d, c) ∉ (JoinGraph.ofTables tables r.inOrder).edges := by
      intro c hc d hedge
      obtain ⟨hd, -, j, hj, rfl, hright⟩ := mem_edges_ofTables.mp hedge
      exact (hpiff c).mp hc j hj hd hright
    -- picked from the order and picked from the list the starting tables are the same
    have hfilter : (finishOrder tables r).filter p = tables.eraseDups.filter p :=
      (JoinGraph.ofTables tables r.inOrder).finishOrder_filter hnodes hp
    have hpa := (hpiff a).mpr ha
    have hpb := (hpiff b).mpr hb
    calc (finishOrder tables r).idxOf a < (finishOrder tables r).idxOf b
        ↔ ((finishOrder tables r).filter p).idxOf a < ((finishOrder tables r).filter p).idxOf b :=
          (idxOf_filter_lt_iff hpa hpb).symm
      _ ↔ tables.eraseDups.idxOf a < tables.eraseDups.idxOf b := by
          rw [hfilter, idxOf_filter_lt_iff hpa hpb]
      _ ↔ tables.idxOf a < tables.idxOf b := idxOf_eraseDups_lt_iff tables a b
  · intro hnone
    have hedges : ∀ c, true = true → ∀ d, (d, c) ∉ (JoinGraph.ofTables tables r.inOrder).edges := by
      intro c _ d hedge
      obtain ⟨hd, hc, j, hj, rfl, rfl⟩ := mem_edges_ofTables.mp hedge
      exact hnone j hj hd hc
    -- every table is a starting table
    have hfilter := (JoinGraph.ofTables tables r.inOrder).finishOrder_filter hnodes hedges
    rwa [List.filter_true, List.filter_true] at hfilter

/-- In the sample two unjoined tables, one of them listed twice, stand around the cycle as they are
first listed. -/
theorem finishOrder_starts_sample :
    (finishOrder [⟨.ofNat 5⟩, ⟨.ofNat 1⟩, ⟨.ofNat 4⟩, ⟨.ofNat 2⟩, ⟨.ofNat 3⟩, ⟨.ofNat 5⟩]
        sampleCycle).idxOf ⟨.ofNat 5⟩ <
      (finishOrder [⟨.ofNat 5⟩, ⟨.ofNat 1⟩, ⟨.ofNat 4⟩, ⟨.ofNat 2⟩, ⟨.ofNat 3⟩, ⟨.ofNat 5⟩]
        sampleCycle).idxOf ⟨.ofNat 4⟩ :=
  ((finishOrder_starts _ sampleCycle).1 ⟨.ofNat 5⟩ (by decide) ⟨.ofNat 4⟩ (by decide) (by decide)
    (by decide)).mpr (by decide)

end JoinRegistry

end VisualQuery
