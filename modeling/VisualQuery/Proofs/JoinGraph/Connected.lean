import VisualQuery.Proofs.JoinGraph.Cycles
import VisualQuery.Query.Basic

/-!
# Without cross joins the tables are connected

The search for cross joins asks of every table but the first whether it is joined to some earlier
one. If it finds no table that is not, then whatever holds of the first table and passes along joins
from earlier to later tables holds of all (`forall_of_noCrossJoin`). In particular all of them are
linked to the first one (`linked_of_noCrossJoin`), whatever order the search has put them in. So if
the tables fall into two groups with no join between them, there is a cross join
(`hasCrossJoin_of_split`).

None of this needs the registry to be coherent: a join that its index lists is a registered one.
-/

namespace VisualQuery

open Relation (ReflTransGen)

/-- A table among the first ones of an order stands before the next one. -/
theorem StandsBefore.of_mem_take {order : List ContainerId} {c d : ContainerId} {i : Nat}
    (hd : d ∈ order.take i) (hc : order[i]? = some c) : StandsBefore order d c := by
  have hdrop : c ∈ order.drop i := by
    refine List.mem_of_getElem? (i := 0) ?_
    rw [List.getElem?_drop, Nat.add_zero, hc]
  have hbefore := of_mem_append hd hdrop
  rwa [List.take_append_drop] at hbefore

namespace JoinRegistry

variable {r : JoinRegistry} {tables : List ContainerId} {a b c d : ContainerId}

/-- Some registered join connects two tables of a list, in either direction. -/
def Linked (r : JoinRegistry) (tables : List ContainerId) (a b : ContainerId) : Prop :=
  a ∈ tables ∧ b ∈ tables ∧ ∃ j ∈ r.joins, j.connects a b = true

theorem Linked.symm (h : r.Linked tables a b) : r.Linked tables b a := by
  obtain ⟨ha, hb, j, hj, hconnects⟩ := h
  exact ⟨hb, ha, j, hj, Join.connects_iff.mpr (Join.connects_iff.mp hconnects).symm⟩

/-- A join that is found at a container is registered. -/
theorem exists_join_of_areJoined (h : r.areJoined a b = true) :
    ∃ j ∈ r.joins, j.connects a b = true := by
  rw [areJoined, Bool.not_eq_true', List.isEmpty_eq_false_iff_exists_mem] at h
  obtain ⟨j, hj⟩ := h
  obtain ⟨hat, hconnects⟩ := List.mem_filter.mp hj
  obtain ⟨id, -, hget⟩ := List.mem_filterMap.mp hat
  exact ⟨j, (get?_eq_some hget).1, hconnects⟩

/-- **Going along the order.** Without cross joins, what holds of the first table and passes to a
table from an earlier one that is joined to it holds of all tables. -/
theorem forall_of_noCrossJoin (h : hasCrossJoin tables r = false) {p : ContainerId → Prop}
    (hfirst : ∀ c, (finishOrder tables r)[0]? = some c → p c)
    (hstep : ∀ c d, StandsBefore (finishOrder tables r) d c → r.areJoined c d = true → p d → p c) :
    ∀ c ∈ tables, p c := by
  have hposition : ∀ (i : Nat) (c : ContainerId), (finishOrder tables r)[i]? = some c → p c := by
    intro i
    induction i using Nat.strongRecOn with
    | ind i ih =>
      intro c hc
      by_cases hnil : (finishOrder tables r).take i = []
      · -- the order is not empty, so this is the first position
        rcases List.take_eq_nil_iff.mp hnil with rfl | hempty
        · exact hfirst c hc
        · simp [hempty] at hc
      · -- otherwise the table would start apart
        obtain ⟨d, hd, hjoined⟩ : ∃ d ∈ (finishOrder tables r).take i, r.areJoined c d = true := by
          by_contra hnone
          push Not at hnone
          have hcross : hasCrossJoin tables r = true :=
            startsApart_iff.mpr ⟨i, c, hc, hnil, fun d hd => Bool.eq_false_iff.mpr (hnone d hd)⟩
          exact Bool.false_ne_true (h.symm.trans hcross)
        obtain ⟨k, hk, hget⟩ := List.mem_take_iff_getElem.mp hd
        have hki : k < i := by omega
        have hkd : (finishOrder tables r)[k]? = some d := List.getElem?_eq_some_iff.mpr ⟨_, hget⟩
        exact hstep c d (.of_mem_take hd hc) hjoined (ih k hki d hkd)
  intro c hc
  obtain ⟨i, hi⟩ := List.mem_iff_getElem?.mp (mem_finishOrder.mpr hc)
  exact hposition i c hi

/-- Without cross joins, a way along joins leads from each table to each other one. -/
theorem linked_of_noCrossJoin (h : hasCrossJoin tables r = false) (ha : a ∈ tables)
    (hb : b ∈ tables) : ReflTransGen (r.Linked tables) a b := by
  obtain ⟨first, hfirst⟩ : ∃ first, (finishOrder tables r)[0]? = some first := by
    have hpos := List.length_pos_of_mem (mem_finishOrder (r := r).mpr ha)
    exact ⟨_, List.getElem?_eq_getElem hpos⟩
  have hfrom : ∀ c ∈ tables, ReflTransGen (r.Linked tables) first c := by
    refine forall_of_noCrossJoin h (fun c hc => ?_) fun c d hbefore hjoined hd => ?_
    · rw [Option.some.inj (hfirst.symm.trans hc)]
    · refine hd.tail ⟨mem_finishOrder.mp hbefore.left_mem, mem_finishOrder.mp hbefore.right_mem, ?_⟩
      obtain ⟨j, hj, hconnects⟩ := exists_join_of_areJoined hjoined
      exact ⟨j, hj, Join.connects_iff.mpr (Join.connects_iff.mp hconnects).symm⟩
  have hsymm : Std.Symm (r.Linked tables) := ⟨fun _ _ => Linked.symm⟩
  -- back to the first table, and on from it
  exact (ReflTransGen.stdSymm.symm _ _ (hfrom a ha)).trans (hfrom b hb)

/-- **Tables that fall apart are found.** For every registry and every list of tables, with joins in
cycles, parallel joins and joins that lead out of the list:

* if the tables fall into two groups, neither of them empty, and no registered join connects a table
  of the one with a table of the other, then there is a cross join;
* so if there is no cross join, a way along registered joins, inside the list, leads from each table
  to each other one;
* and the same holds of the tables of a query. -/
theorem hasCrossJoin_of_split (r : JoinRegistry) (tables : List ContainerId) :
    (∀ group : ContainerId → Prop, (∃ a ∈ tables, group a) → (∃ b ∈ tables, ¬ group b) →
      (∀ a ∈ tables, ∀ b ∈ tables, group a → ¬ group b → ∀ j ∈ r.joins, j.connects a b = false) →
        hasCrossJoin tables r = true) ∧
    (hasCrossJoin tables r = false →
      ∀ a ∈ tables, ∀ b ∈ tables, ReflTransGen (r.Linked tables) a b) ∧
    ∀ q : Query, q.containsCrossJoins = false →
      ∀ a ∈ q.tableIds, ∀ b ∈ q.tableIds, ReflTransGen (q.joins.Linked q.tableIds) a b := by
  refine ⟨fun group hin hout hsplit => ?_, fun h a ha b hb => linked_of_noCrossJoin h ha hb,
    fun q h a ha b hb => linked_of_noCrossJoin h ha hb⟩
  obtain ⟨a, ha, hgroupA⟩ := hin
  obtain ⟨b, hb, hgroupB⟩ := hout
  by_contra hnone
  have hpath := linked_of_noCrossJoin (Bool.eq_false_iff.mpr hnone) ha hb
  -- the way from the one group to the other stays in the first
  have hstay : group b := by
    clear hgroupB hb
    induction hpath with
    | refl => exact hgroupA
    | @tail c d _ hlink ih =>
      obtain ⟨hc, hd, j, hj, hconnects⟩ := hlink
      by_contra hgroupD
      exact Bool.false_ne_true ((hsplit c hc d hd ih hgroupD j hj).symm.trans hconnects)
  exact hgroupB hstay

/-- Two pairs of tables, each of them joined, and a join to a table that is not listed. -/
def sampleIslands : JoinRegistry :=
  ((empty.extend (.sample 10 1 2)).extend (.sample 11 3 4)).extend (.sample 12 2 5)

/-- In the sample the two pairs fall apart. In the cycle from before, the first and the last table
are linked. -/
theorem hasCrossJoin_of_split_sample :
    hasCrossJoin [⟨.ofNat 1⟩, ⟨.ofNat 3⟩, ⟨.ofNat 2⟩, ⟨.ofNat 4⟩] sampleIslands = true ∧
      hasCrossJoin [⟨.ofNat 1⟩, ⟨.ofNat 2⟩, ⟨.ofNat 3⟩] sampleCycle = false ∧
      ReflTransGen (sampleCycle.Linked [⟨.ofNat 1⟩, ⟨.ofNat 2⟩, ⟨.ofNat 3⟩])
        ⟨.ofNat 1⟩ ⟨.ofNat 3⟩ := by
  have hclean : hasCrossJoin [⟨.ofNat 1⟩, ⟨.ofNat 2⟩, ⟨.ofNat 3⟩] sampleCycle = false := by
    rw [hasCrossJoin, finishOrder_sampleCycle]
    decide
  refine ⟨?_, hclean, (hasCrossJoin_of_split sampleCycle _).2.1 hclean _ (by decide) _ (by decide)⟩
  -- two joined pairs with no join between them
  refine (hasCrossJoin_of_split sampleIslands _).1 (fun c => c = ⟨.ofNat 1⟩ ∨ c = ⟨.ofNat 2⟩)
    ?_ ?_ ?_
  · exact ⟨⟨.ofNat 1⟩, by decide, by decide⟩
  · exact ⟨⟨.ofNat 3⟩, by decide, by decide⟩
  · decide

end JoinRegistry

end VisualQuery
