import Mathlib.Logic.Relation
import VisualQuery.Proofs.JoinGraph.Visits
import VisualQuery.Proofs.JoinRegistry.Built

/-!
# Joins lead backwards only inside cycles

In the order of the search the left table of a join comes before the right one, unless the search
could not help it. This is the theorem on back edges: if an edge leads to a table that is finished
later, this table was still being visited when the edge was looked at, so there is a path from it
to the source of the edge (`Visits.edge`).

The path is one that the search took, and it finishes the tables on a path from its end to its
start. So in the order, which is the reverse, the path only leads to later tables
(`JoinGraph.LeadsOn`). It therefore stays between the two ends of the edge, and two tables next to
each other that are joined at all are joined in their order (`finishOrder_next`).

For a registry this says that a join leads backwards only if it lies on a cycle of joins, and that
without cycles the order is topological (`JoinRegistry.Built.cycle_of_backwards`).
-/

namespace VisualQuery

open Relation (ReflTransGen TransGen)

/-! ### Standing before -/

/-- One table stands before another one in an order. -/
def StandsBefore (order : List ContainerId) (a b : ContainerId) : Prop := [a, b].Sublist order

namespace StandsBefore

variable {order order' : List ContainerId} {a b : ContainerId}

theorem mono (h : StandsBefore order a b) (horder : order.Sublist order') :
    StandsBefore order' a b := h.trans horder

theorem left_mem (h : StandsBefore order a b) : a ∈ order := h.subset List.mem_cons_self

theorem right_mem (h : StandsBefore order a b) : b ∈ order :=
  h.subset (List.mem_cons_of_mem a List.mem_cons_self)

theorem of_mem_append (ha : a ∈ order) (hb : b ∈ order') : StandsBefore (order ++ order') a b :=
  (List.singleton_sublist.mpr ha).append (List.singleton_sublist.mpr hb)

theorem of_mem_cons (hb : b ∈ order) : StandsBefore (a :: order) a b :=
  (List.singleton_sublist.mpr hb).cons_cons a

/-- In an order that names each table once, the positions say which one stands before. -/
theorem idxOf_lt (hnd : order.Nodup) (h : StandsBefore order a b) :
    order.idxOf a < order.idxOf b := by
  induction order with
  | nil => exact absurd h.left_mem List.not_mem_nil
  | cons c order ih =>
    obtain ⟨hc, hnd⟩ := List.nodup_cons.mp hnd
    have hlater : ∀ {d}, d ∈ order → c ≠ d := fun hd heq => hc (heq ▸ hd)
    -- either both stand further on, or the first of the two is the head
    cases h with
    | cons _ h =>
      have hlt := ih hnd h
      rw [List.idxOf_cons_ne _ (hlater (left_mem h)), List.idxOf_cons_ne _ (hlater (right_mem h))]
      exact Nat.succ_lt_succ hlt
    | cons_cons _ h =>
      rw [List.idxOf_cons_self, List.idxOf_cons_ne _ (hlater (List.singleton_sublist.mp h))]
      exact Nat.succ_pos _

end StandsBefore

/-! ### The edges of a visit -/

namespace JoinGraph

variable {g : JoinGraph} {unseen roots new left : List ContainerId} {a b c : ContainerId}

theorem mem_successors : b ∈ g.successors a ↔ (a, b) ∈ g.edges := by
  rw [successors, List.mem_filterMap]
  constructor
  · rintro ⟨⟨c, d⟩, hedge, hsome⟩
    dsimp only at hsome
    split at hsome
    · next hca => rwa [← hca, ← Option.some.inj hsome]
    · exact absurd hsome (by simp)
  · exact fun hedge => ⟨(a, b), hedge, by simp⟩

/-- An edge that leads to a later table of an order. -/
def LeadsOn (g : JoinGraph) (order : List ContainerId) (a b : ContainerId) : Prop :=
  (a, b) ∈ g.edges ∧ StandsBefore order a b

theorem leadsOn_mono {order order' : List ContainerId} (horder : order.Sublist order') :
    g.LeadsOn order ≤ g.LeadsOn order' := fun _ _ h => ⟨h.1, h.2.mono horder⟩

namespace Visits

/-- A visit finishes the unseen ones of its roots. -/
theorem mem_new_of_root (h : Visits g unseen roots new left) (hc : c ∈ roots) (hu : c ∈ unseen) :
    c ∈ new := by
  induction h with
  | nil => exact absurd hc List.not_mem_nil
  | skip hd _ ih =>
    rcases List.mem_cons.mp hc with rfl | hc
    · exact absurd hu hd
    · exact ih hc hu
  | @visit unseen roots below between new left d hd hbelow hroots _ ih =>
    by_cases hcd : c = d
    · exact List.mem_append_right _ (hcd ▸ List.mem_cons_self)
    · -- an earlier root may have found it already; otherwise it is still unseen and its own turn
      -- comes
      have hroot : c ∈ roots := (List.mem_cons.mp hc).resolve_left hcd
      have hperm := hbelow.perm.mem_iff.mp ((List.mem_erase_of_ne hcd).mpr hu)
      rcases List.mem_append.mp hperm with hmem | hmem
      · exact List.mem_append_right _ (List.mem_cons_of_mem _ hmem)
      · exact List.mem_append_left _ (ih hroot hmem)

/-- **Each finished table is reached from a root**, by edges that lead to later and later tables of
the order. -/
theorem reached (h : Visits g unseen roots new left) (hc : c ∈ new) :
    ∃ root ∈ roots, root ∈ new ∧ ReflTransGen (g.LeadsOn new) root c := by
  induction h with
  | nil => exact absurd hc List.not_mem_nil
  | skip _ _ ih =>
    obtain ⟨root, hroot, hnew, hpath⟩ := ih hc
    exact ⟨root, List.mem_cons_of_mem _ hroot, hnew, hpath⟩
  | @visit unseen roots below between new left d hd hbelow hroots ihbelow ih =>
    have hsub : (d :: below).Sublist (new ++ d :: below) := List.sublist_append_right _ _
    rcases List.mem_append.mp hc with hc | hc
    · obtain ⟨root, hroot, hnew, hpath⟩ := ih hc
      refine ⟨root, List.mem_cons_of_mem _ hroot, List.mem_append_left _ hnew, ?_⟩
      exact ReflTransGen.mono (leadsOn_mono (List.sublist_append_left _ _)) _ _ hpath
    · refine ⟨d, List.mem_cons_self, List.mem_append_right _ List.mem_cons_self, ?_⟩
      rcases List.mem_cons.mp hc with rfl | hc
      · exact .refl
      · -- below the table, the way starts at one of its successors
        obtain ⟨root, hroot, hnew, hpath⟩ := ihbelow hc
        have hfirst : g.LeadsOn (new ++ d :: below) d root :=
          ⟨mem_successors.mp hroot, (StandsBefore.of_mem_cons hnew).mono hsub⟩
        have hsubBelow := (List.sublist_cons_self d below).trans hsub
        exact .head hfirst (ReflTransGen.mono (leadsOn_mono hsubBelow) _ _ hpath)

/-- **Back edges.** An edge from a finished table to one that was unseen leads to a later table of
the order, or there is a way back by edges that do. -/
theorem edge (h : Visits g unseen roots new left) (hedge : (a, b) ∈ g.edges) (ha : a ∈ new)
    (hb : b ∈ unseen) (hab : a ≠ b) :
    StandsBefore new a b ∨ TransGen (g.LeadsOn new) b a := by
  induction h with
  | nil => exact absurd ha List.not_mem_nil
  | skip _ _ ih => exact ih ha hb
  | @visit unseen roots below between new left c hc hbelow hroots ihbelow ih =>
    have hsub : (c :: below).Sublist (new ++ c :: below) := List.sublist_append_right _ _
    have hsubBelow : below.Sublist (new ++ c :: below) :=
      (List.sublist_cons_self c below).trans hsub
    have hsubNew : new.Sublist (new ++ c :: below) := List.sublist_append_left _ _
    -- what was unseen is the table, or finished below it, or left for the other roots
    have hwhere : b = c ∨ b ∈ below ∨ b ∈ between := by
      refine or_iff_not_imp_left.mpr fun hbc => List.mem_append.mp ?_
      exact hbelow.perm.mem_iff.mp ((List.mem_erase_of_ne hbc).mpr hb)
    rcases List.mem_append.mp ha with hnew | hmem
    · -- the edge starts at a table that was visited after this one
      rcases hwhere with rfl | hb | hb
      · exact Or.inl (.of_mem_append hnew List.mem_cons_self)
      · exact Or.inl (.of_mem_append hnew (List.mem_cons_of_mem _ hb))
      · exact (ih hnew hb).imp (fun h => h.mono hsubNew)
          (TransGen.mono (leadsOn_mono hsubNew) _ _)
    · rcases List.mem_cons.mp hmem with rfl | hlow
      · -- the edge starts at the table itself, so it leads to a root of the visit below
        have hroot := hbelow.mem_new_of_root (mem_successors.mpr hedge)
          ((List.mem_erase_of_ne hab.symm).mpr hb)
        exact Or.inl ((StandsBefore.of_mem_cons hroot).mono hsub)
      · by_cases hbc : b = c
        · -- the edge leads back to the table, from which its source was reached
          subst hbc
          obtain ⟨root, hroot, hnew, hpath⟩ := hbelow.reached hlow
          have hfirst : g.LeadsOn (new ++ b :: below) b root :=
            ⟨mem_successors.mp hroot, (StandsBefore.of_mem_cons hnew).mono hsub⟩
          exact Or.inr (.head' hfirst (ReflTransGen.mono (leadsOn_mono hsubBelow) _ _ hpath))
        · exact (ihbelow hlow ((List.mem_erase_of_ne hbc).mpr hb)).imp
            (fun h => h.mono hsubBelow) (TransGen.mono (leadsOn_mono hsubBelow) _ _)

end Visits

/-- **An edge leads to a later table of the order, or there is a way back** that does. -/
theorem finishOrder_edge (g : JoinGraph) (hnodes : g.nodes.Nodup) (hedge : (a, b) ∈ g.edges)
    (ha : a ∈ g.nodes) (hb : b ∈ g.nodes) (hab : a ≠ b) :
    StandsBefore g.finishOrder a b ∨ TransGen (g.LeadsOn g.finishOrder) b a :=
  (g.finishOrder_visits hnodes).edge hedge ((g.finishOrder_perm hnodes).mem_iff.mpr ha) hb hab

/-- A way that only leads to later tables leads to a later position. -/
theorem idxOf_lt_of_path {order : List ContainerId} (hnd : order.Nodup)
    (h : TransGen (g.LeadsOn order) a b) : order.idxOf a < order.idxOf b := by
  induction h with
  | single h => exact h.2.idxOf_lt hnd
  | tail _ h ih => exact Nat.lt_trans ih (h.2.idxOf_lt hnd)

/-- **Tables next to each other that are joined are joined in their order**: if an edge leads from
the second one back to the first, there is also one the other way. -/
theorem finishOrder_next (g : JoinGraph) (hnodes : g.nodes.Nodup) {i : Nat}
    (ha : g.finishOrder[i]? = some a) (hb : g.finishOrder[i + 1]? = some b)
    (hback : (b, a) ∈ g.edges) : (a, b) ∈ g.edges := by
  have hperm := g.finishOrder_perm hnodes
  have hnd : g.finishOrder.Nodup := hperm.nodup_iff.mpr hnodes
  have hidxA := idxOf_of_getElem? hnd ha
  have hidxB := idxOf_of_getElem? hnd hb
  have hne : b ≠ a := fun heq => by
    rw [heq, hidxA] at hidxB
    exact absurd hidxB (Nat.ne_of_lt i.lt_succ_self)
  rcases g.finishOrder_edge hnodes hback (hperm.mem_iff.mp (List.mem_of_getElem? hb))
    (hperm.mem_iff.mp (List.mem_of_getElem? ha)) hne with hbefore | hpath
  · have hlt := hbefore.idxOf_lt hnd
    omega
  · -- the way from the first to the second one has no room for a third
    obtain ⟨c, hfirst, hrest⟩ := TransGen.head'_iff.mp hpath
    rcases Relation.reflTransGen_iff_eq_or_transGen.mp hrest with rfl | hrest
    · exact hfirst.1
    · have hlt := hfirst.2.idxOf_lt hnd
      have hlt' := idxOf_lt_of_path hnd hrest
      omega

end JoinGraph

/-! ### Joins of a registry -/

namespace JoinRegistry

variable {r : JoinRegistry} {tables : List ContainerId} {a b : ContainerId}

/-- A registered join leads from one table of a list to another one of it. -/
def Leads (r : JoinRegistry) (tables : List ContainerId) (a b : ContainerId) : Prop :=
  a ∈ tables ∧ b ∈ tables ∧ ∃ j ∈ r.inOrder, j.left.container = a ∧ j.right.container = b

/-- The joins between the tables of a list form no cycle. -/
def Acyclic (r : JoinRegistry) (tables : List ContainerId) : Prop :=
  ∀ c, ¬ TransGen (r.Leads tables) c c

theorem mem_edges_ofTables :
    (a, b) ∈ (JoinGraph.ofTables tables r.inOrder).edges ↔ r.Leads tables a b := by
  simp only [JoinGraph.ofTables, List.mem_filterMap, List.mem_eraseDups, Leads]
  constructor
  · rintro ⟨j, hj, hsome⟩
    split at hsome
    · next hends =>
      obtain ⟨rfl, rfl⟩ := Prod.mk.inj (Option.some.inj hsome)
      exact ⟨hends.1, hends.2, j, hj, rfl, rfl⟩
    · exact absurd hsome (by simp)
  · rintro ⟨ha, hb, j, hj, rfl, rfl⟩
    exact ⟨j, hj, if_pos ⟨ha, hb⟩⟩

theorem finishOrder_nodup (tables : List ContainerId) (r : JoinRegistry) :
    (finishOrder tables r).Nodup :=
  (finishOrder_perm tables r).nodup_iff.mpr (nodup_eraseDups tables)

theorem mem_finishOrder : a ∈ finishOrder tables r ↔ a ∈ tables := by
  rw [(finishOrder_perm tables r).mem_iff, List.mem_eraseDups]

/-- Where a join leads backwards in the order, there is a way back along joins. -/
theorem Leads.path_back (h : r.Leads tables a b) (hab : a ≠ b) :
    StandsBefore (finishOrder tables r) a b ∨ TransGen (r.Leads tables) b a := by
  have hnodes : ∀ {c}, c ∈ tables → c ∈ (JoinGraph.ofTables tables r.inOrder).nodes := fun hc =>
    List.mem_eraseDups.mpr hc
  refine (JoinGraph.finishOrder_edge _ (nodup_eraseDups tables) (mem_edges_ofTables.mpr h)
    (hnodes h.1) (hnodes h.2.1) hab).imp_right ?_
  exact TransGen.mono (fun _ _ hlead => mem_edges_ofTables.mp hlead.1) _ _

/-- **Without cycles the order is topological.** -/
theorem Acyclic.standsBefore (h : r.Acyclic tables) (hab : r.Leads tables a b) :
    StandsBefore (finishOrder tables r) a b := by
  have hne : a ≠ b := fun heq => h a (.single (heq ▸ hab))
  exact (hab.path_back hne).resolve_right fun hpath => h a (.head hab hpath)

/-- **A join leads backwards only inside a cycle.** For every registry that changes lead to, and
every list of tables:

* if the right table of a join stands before the left one in the order of the search, then a way
  along joins leads from the right table back to the left one, and the join closes it to a cycle;
* so if the joins between the listed tables form no cycle, the left table of each stands before the
  right one. -/
theorem Built.cycle_of_backwards (hr : r.Built) (tables : List ContainerId) :
    (∀ j ∈ r.inOrder,
      StandsBefore (finishOrder tables r) j.right.container j.left.container →
        TransGen (r.Leads tables) j.right.container j.left.container ∧
          TransGen (r.Leads tables) j.left.container j.left.container) ∧
    (r.Acyclic tables → ∀ j ∈ r.inOrder, j.left.container ∈ tables → j.right.container ∈ tables →
      StandsBefore (finishOrder tables r) j.left.container j.right.container) := by
  constructor
  · intro j hj hback
    have hlead : r.Leads tables j.left.container j.right.container :=
      ⟨mem_finishOrder.mp hback.right_mem, mem_finishOrder.mp hback.left_mem, j, hj, rfl, rfl⟩
    have hapart := hr.coherent.apart j (mem_of_mem_inOrder hj)
    have hpath := (hlead.path_back hapart).resolve_left fun hbefore => by
      -- the order names each table once, so not both stand before each other
      have hlt := hbefore.idxOf_lt (finishOrder_nodup tables r)
      have hlt' := hback.idxOf_lt (finishOrder_nodup tables r)
      omega
    exact ⟨hpath, .head hlead hpath⟩
  · intro hacyclic j hj hleft hright
    exact hacyclic.standsBefore ⟨hleft, hright, j, hj, rfl, rfl⟩

/-- Two tables that are joined in both directions, and a third one behind the second. -/
def sampleCycle : JoinRegistry :=
  ((empty.extend (.sample 10 1 2)).extend (.sample 11 2 1)).extend (.sample 12 2 3)

theorem sampleCycle_built : sampleCycle.Built := by
  refine .extend (.extend (.extend .empty ?_ ?_) ?_ ?_) ?_ ?_ <;> decide

/-- The search comes to the second table first, so this is the one that is named first. -/
theorem finishOrder_sampleCycle :
    finishOrder [⟨.ofNat 1⟩, ⟨.ofNat 2⟩, ⟨.ofNat 3⟩] sampleCycle =
      [⟨.ofNat 2⟩, ⟨.ofNat 1⟩, ⟨.ofNat 3⟩] := by
  have hgraph : JoinGraph.ofTables [⟨.ofNat 1⟩, ⟨.ofNat 2⟩, ⟨.ofNat 3⟩] sampleCycle.inOrder =
      ⟨[⟨.ofNat 1⟩, ⟨.ofNat 2⟩, ⟨.ofNat 3⟩], [(⟨.ofNat 1⟩, ⟨.ofNat 2⟩),
        (⟨.ofNat 2⟩, ⟨.ofNat 1⟩), (⟨.ofNat 2⟩, ⟨.ofNat 3⟩)]⟩ := by decide
  -- the search compares identifiers, so it is told once that the three are different
  have hne : Uuid.ofNat 1 ≠ Uuid.ofNat 2 ∧ Uuid.ofNat 1 ≠ Uuid.ofNat 3 ∧
      Uuid.ofNat 2 ≠ Uuid.ofNat 3 := by decide
  rw [finishOrder, hgraph]
  simp [JoinGraph.finishOrder, JoinGraph.searchFrom, JoinGraph.search, JoinGraph.successors, hne,
    hne.1.symm, hne.2.1.symm, hne.2.2.symm]

/-- In the sample the join from the first table to the second one leads backwards, and the second
join leads back. -/
theorem cycle_of_backwards_sample :
    sampleCycle.Built ∧
      StandsBefore (finishOrder [⟨.ofNat 1⟩, ⟨.ofNat 2⟩, ⟨.ofNat 3⟩] sampleCycle)
        ⟨.ofNat 2⟩ ⟨.ofNat 1⟩ ∧
      TransGen (sampleCycle.Leads [⟨.ofNat 1⟩, ⟨.ofNat 2⟩, ⟨.ofNat 3⟩])
        ⟨.ofNat 2⟩ ⟨.ofNat 1⟩ := by
  have hback : StandsBefore (finishOrder [⟨.ofNat 1⟩, ⟨.ofNat 2⟩, ⟨.ofNat 3⟩] sampleCycle)
      ⟨.ofNat 2⟩ ⟨.ofNat 1⟩ := by
    rw [finishOrder_sampleCycle]
    exact .of_mem_cons List.mem_cons_self
  refine ⟨sampleCycle_built, hback, ?_⟩
  exact ((sampleCycle_built.cycle_of_backwards _).1 (.sample 10 1 2) (by decide) hback).1

end JoinRegistry

end VisualQuery
