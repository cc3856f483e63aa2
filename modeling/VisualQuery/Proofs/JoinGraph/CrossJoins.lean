import VisualQuery.Proofs.JoinGraph.Cycles

/-!
# The verdict without cycles

The search for cross joins goes along one particular order, so what it finds depends on the list of
tables and on the order in which the joins were registered. Without cycles it does not: the order is
topological, so the tables that are joined to an earlier one are exactly those that some join leads
to (`Acyclic.startsApart_at_iff`). The first table of the order is always one that no join leads to,
and a cross join is any other such table (`Built.hasCrossJoin_iff_of_acyclic`).
-/

namespace VisualQuery

open Relation (TransGen)

namespace JoinRegistry

variable {r : JoinRegistry} {tables : List ContainerId} {a b c : ContainerId}

/-- A table of a list to which no join leads from a table of the list. -/
def IsSource (r : JoinRegistry) (tables : List ContainerId) (c : ContainerId) : Prop :=
  c ∈ tables ∧ ∀ a, ¬ r.Leads tables a c

/-- From where to where each join leads, in the order they were registered. -/
def arrows (r : JoinRegistry) : List (ContainerId × ContainerId) :=
  r.inOrder.map fun j => (j.left.container, j.right.container)

theorem leads_iff_mem_arrows :
    r.Leads tables a b ↔ a ∈ tables ∧ b ∈ tables ∧ (a, b) ∈ r.arrows := by
  simp only [Leads, arrows, List.mem_map, Prod.mk.injEq]

/-- What leads where depends neither on the order of the tables nor on that of the joins. -/
theorem leads_congr {r' : JoinRegistry} {tables' : List ContainerId}
    (htables : tables'.Perm tables) (harrows : r'.arrows.Perm r.arrows) :
    r'.Leads tables' = r.Leads tables := by
  funext a b
  rw [eq_iff_iff, leads_iff_mem_arrows, leads_iff_mem_arrows, htables.mem_iff, htables.mem_iff,
    harrows.mem_iff]

/-- A join that leads from one table to another one joins the two. -/
theorem Coherent.areJoined_of_leads (h : r.Coherent) (hab : r.Leads tables a b) :
    r.areJoined b a = true := by
  obtain ⟨-, -, j, hj, rfl, rfl⟩ := hab
  exact (h.areJoined_iff _ _).mpr
    ⟨j, mem_of_mem_inOrder hj, Join.connects_iff.mpr (Or.inr ⟨rfl, rfl⟩)⟩

/-- Two tables of a list are joined if a join leads from one of them to the other. -/
theorem Coherent.leads_of_areJoined (h : r.Coherent) (ha : a ∈ tables) (hb : b ∈ tables)
    (hab : r.areJoined a b = true) : r.Leads tables a b ∨ r.Leads tables b a := by
  obtain ⟨j, hj, hconnects⟩ := (h.areJoined_iff a b).mp hab
  rw [← h.inOrder_eq] at hj
  rcases Join.connects_iff.mp hconnects with ⟨hleft, hright⟩ | ⟨hleft, hright⟩
  · exact Or.inl ⟨ha, hb, j, hj, hleft, hright⟩
  · exact Or.inr ⟨hb, ha, j, hj, hleft, hright⟩

/-- **Without cycles a table starts apart if no join leads to it.** The other joins at the table
lead to tables behind it. -/
theorem Acyclic.startsApart_at_iff (h : r.Acyclic tables) (hr : r.Coherent) {i : Nat}
    (hc : (finishOrder tables r)[i]? = some c) :
    (∀ d ∈ (finishOrder tables r).take i, r.areJoined c d = false) ↔ r.IsSource tables c := by
  have hnd := finishOrder_nodup tables r
  have hidx : (finishOrder tables r).idxOf c = i := idxOf_of_getElem? hnd hc
  have hctables : c ∈ tables := mem_finishOrder.mp (List.mem_of_getElem? hc)
  constructor
  · intro hapart
    refine ⟨hctables, fun a hlead => ?_⟩
    have hlt := (h.standsBefore hlead).idxOf_lt hnd
    have htake : a ∈ (finishOrder tables r).take i :=
      (List.mem_take_iff_idxOf_lt (mem_finishOrder.mpr hlead.1)).mpr (hidx ▸ hlt)
    have hjoined := hr.areJoined_of_leads hlead
    rw [hapart a htake] at hjoined
    exact Bool.false_ne_true hjoined
  · intro hsource d hd
    have hdorder := List.mem_of_mem_take hd
    have hlt := (List.mem_take_iff_idxOf_lt hdorder).mp hd
    refine Bool.eq_false_iff.mpr fun hjoined => ?_
    rcases hr.leads_of_areJoined hctables (mem_finishOrder.mp hdorder) hjoined with hlead | hlead
    · -- a join from the table to an earlier one would lead backwards
      have hlt' := (h.standsBefore hlead).idxOf_lt hnd
      omega
    · exact hsource.2 d hlead

/-- **Without cycles there is a cross join if two tables are sources.** The first table of the order
is one, and it needs no join. -/
theorem Acyclic.hasCrossJoin_iff (h : r.Acyclic tables) (hr : r.Coherent) :
    hasCrossJoin tables r = true ↔
      ∃ a b, a ≠ b ∧ r.IsSource tables a ∧ r.IsSource tables b := by
  have hnd := finishOrder_nodup tables r
  rw [hasCrossJoin, startsApart_iff]
  simp only [List.nil_append]
  constructor
  · rintro ⟨i, b, hb, hne, hapart⟩
    cases horder : finishOrder tables r with
    | nil => simp [horder] at hb
    | cons a rest =>
      have ha : (finishOrder tables r)[0]? = some a := by rw [horder, List.getElem?_cons_zero]
      have hapartFirst : ∀ d ∈ (finishOrder tables r).take 0, r.areJoined a d = false := by simp
      refine ⟨a, b, ?_, (h.startsApart_at_iff hr ha).mp hapartFirst,
        (h.startsApart_at_iff hr hb).mp hapart⟩
      rintro rfl
      have hzero : i = 0 := (idxOf_of_getElem? hnd hb).symm.trans (idxOf_of_getElem? hnd ha)
      exact hne (by rw [hzero, List.take_zero])
  · rintro ⟨a, b, hab, ha, hb⟩
    -- the later one of the two is not the first table of the order
    have hlater : ∀ {x y}, r.IsSource tables y → x ∈ tables →
        (finishOrder tables r).idxOf x < (finishOrder tables r).idxOf y →
        ∃ i c, (finishOrder tables r)[i]? = some c ∧ (finishOrder tables r).take i ≠ [] ∧
          ∀ d ∈ (finishOrder tables r).take i, r.areJoined c d = false := by
      intro x y hy hx hlt
      have hget : (finishOrder tables r)[(finishOrder tables r).idxOf y]? = some y :=
        List.getElem?_idxOf (mem_finishOrder.mpr hy.1)
      refine ⟨_, y, hget, ?_, (h.startsApart_at_iff hr hget).mpr hy⟩
      exact List.ne_nil_of_mem ((List.mem_take_iff_idxOf_lt (mem_finishOrder.mpr hx)).mpr hlt)
    have hne : (finishOrder tables r).idxOf a ≠ (finishOrder tables r).idxOf b := fun heq =>
      hab ((List.idxOf_inj (mem_finishOrder.mpr ha.1)).mp heq)
    rcases Nat.lt_or_gt_of_ne hne with hlt | hlt
    · exact hlater hb ha.1 hlt
    · exact hlater ha hb.1 hlt

/-- **The verdict without cycles.** For every registry that changes lead to and every list of
tables, the joins between which form no cycle:

* there is a cross join exactly if two tables of the list are such that no join leads to them from
  another table of the list;
* so the verdict is the same for every order of the tables, and for every registry in which joins
  lead from and to the same tables, in whatever order they were registered. -/
theorem Built.hasCrossJoin_iff_of_acyclic (hr : r.Built) (h : r.Acyclic tables) :
    (hasCrossJoin tables r = true ↔
      ∃ a ∈ tables, ∃ b ∈ tables, a ≠ b ∧
        (∀ j ∈ r.inOrder, j.left.container ∈ tables → j.right.container ≠ a) ∧
        ∀ j ∈ r.inOrder, j.left.container ∈ tables → j.right.container ≠ b) ∧
    ∀ tables' r', tables'.Perm tables → r'.Built → r'.arrows.Perm r.arrows →
      hasCrossJoin tables' r' = hasCrossJoin tables r := by
  -- a source is a table that no join between listed tables leads to
  have hsource : ∀ c, r.IsSource tables c ↔
      c ∈ tables ∧ ∀ j ∈ r.inOrder, j.left.container ∈ tables → j.right.container ≠ c := by
    intro c
    refine and_congr_right fun hc => ⟨fun hnone j hj hleft heq => ?_, ?_⟩
    · exact hnone _ ⟨hleft, hc, j, hj, rfl, heq⟩
    · rintro hnone a ⟨ha, -, j, hj, rfl, heq⟩
      exact hnone j hj ha heq
  constructor
  · rw [h.hasCrossJoin_iff hr.coherent]
    simp only [hsource]
    constructor
    · rintro ⟨a, b, hab, ⟨ha, hnoneA⟩, hb, hnoneB⟩
      exact ⟨a, ha, b, hb, hab, hnoneA, hnoneB⟩
    · rintro ⟨a, ha, b, hb, hab, hnoneA, hnoneB⟩
      exact ⟨a, b, hab, ⟨ha, hnoneA⟩, hb, hnoneB⟩
  · -- the condition speaks of the arrows only, so their order and that of the tables do not matter
    intro tables' r' htables hr' harrows
    have hleads := leads_congr htables harrows
    have h' : r'.Acyclic tables' := by rwa [Acyclic, hleads]
    have hsame : r'.IsSource tables' = r.IsSource tables := by
      funext c
      rw [IsSource, IsSource, hleads, htables.mem_iff]
    rw [Bool.eq_iff_iff, h'.hasCrossJoin_iff hr'.coherent, h.hasCrossJoin_iff hr.coherent, hsame]

/-- Two tables from which joins lead to a third one. -/
def sampleFork : JoinRegistry := (empty.extend (.sample 10 1 2)).extend (.sample 11 3 2)

/-- In the sample no join leads to the first and to the last table, so one of them is joined without
a condition. -/
theorem hasCrossJoin_sampleFork :
    sampleFork.Built ∧ sampleFork.Acyclic [⟨.ofNat 1⟩, ⟨.ofNat 2⟩, ⟨.ofNat 3⟩] ∧
      hasCrossJoin [⟨.ofNat 1⟩, ⟨.ofNat 2⟩, ⟨.ofNat 3⟩] sampleFork = true := by
  have hbuilt : sampleFork.Built := by
    refine .extend (.extend .empty ?_ ?_) ?_ ?_ <;> decide
  have hends : ∀ {a b}, sampleFork.Leads [⟨.ofNat 1⟩, ⟨.ofNat 2⟩, ⟨.ofNat 3⟩] a b →
      a ≠ ⟨.ofNat 2⟩ ∧ b = ⟨.ofNat 2⟩ := by
    rintro a b ⟨-, -, j, hj, rfl, rfl⟩
    revert j
    decide
  -- every arrow leads to the second table and none leaves it
  have hacyclic : sampleFork.Acyclic [⟨.ofNat 1⟩, ⟨.ofNat 2⟩, ⟨.ofNat 3⟩] := by
    intro c hcycle
    obtain ⟨d, hfirst, -⟩ := TransGen.head'_iff.mp hcycle
    obtain ⟨e, -, hlast⟩ := TransGen.tail'_iff.mp hcycle
    exact (hends hfirst).1 (hends hlast).2
  refine ⟨hbuilt, hacyclic, (hbuilt.hasCrossJoin_iff_of_acyclic hacyclic).1.mpr ?_⟩
  exact ⟨⟨.ofNat 1⟩, by decide, ⟨.ofNat 3⟩, by decide, by decide, by decide, by decide⟩

end JoinRegistry

end VisualQuery
