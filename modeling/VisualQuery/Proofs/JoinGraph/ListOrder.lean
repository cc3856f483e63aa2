import VisualQuery.Proofs.JoinGraph.Connected
import VisualQuery.Proofs.JoinGraph.CrossJoins
import VisualQuery.Proofs.JoinGraph.Roots

/-!
# The verdict and the order of the list

The order of the search depends on the order of the list, because the list says from which tables
the search starts. Inside a cycle that can matter: the search comes to a cycle at the table that a
join from outside leads to, or at the one that the list has last, and in the second case this table
need not be joined to any earlier one.

The module tells for which tables and joins the verdict on cross joins depends on that. Say that a
table reaches all tables if a way along joins leads to each of them, and that a table is entered if
some join leads to it from a table to which no way leads back, that is, from outside its cycles.

* Some order of the list has a cross join exactly if some table neither reaches all tables nor is
  entered: put last, it is joined to no earlier table.
* Some order has none exactly if some table reaches all: put last, it is named first, and every
  other table is joined to the one it was found from.

So the verdict is the same for all orders unless there are tables of both sorts
(`Built.hasCrossJoin_perm_iff`). Without cycles there are not: a table that is not entered is then
one that no join leads to, so a table that reaches it can only be the table itself.
-/

namespace VisualQuery

open Relation (ReflTransGen)

theorem StandsBefore.asymm {order : List ContainerId} {a b : ContainerId} (hnd : order.Nodup)
    (h : StandsBefore order a b) : ¬ StandsBefore order b a := fun hback =>
  Nat.lt_asymm (h.idxOf_lt hnd) (hback.idxOf_lt hnd)

/-- The table that a part of an order begins with stands before the rest of the part. -/
theorem not_standsBefore_of_mem {order later below : List ContainerId} {c d : ContainerId}
    (horder : order = later ++ c :: below) (hnd : order.Nodup) (hd : d ∈ c :: below) :
    ¬ StandsBefore order d c := by
  intro hbefore
  rcases List.mem_cons.mp hd with rfl | hlow
  · exact hbefore.asymm hnd hbefore
  · have hbelow : StandsBefore order c d := by
      rw [horder]
      exact (StandsBefore.of_mem_cons hlow).mono (List.sublist_append_right later _)
    exact hbelow.asymm hnd hbefore

namespace JoinRegistry

variable {r : JoinRegistry} {tables tables' : List ContainerId} {a b c d s : ContainerId}

/-- A way along joins leads from a table to each table of a list. -/
def ReachesAll (r : JoinRegistry) (tables : List ContainerId) (c : ContainerId) : Prop :=
  ∀ t ∈ tables, ReflTransGen (r.Leads tables) c t

/-- A join leads to a table from one to which no way leads back. -/
def Entered (r : JoinRegistry) (tables : List ContainerId) (c : ContainerId) : Prop :=
  ∃ a, r.Leads tables a c ∧ ¬ ReflTransGen (r.Leads tables) c a

theorem reachesAll_congr (h : tables'.Perm tables) :
    r.ReachesAll tables' = r.ReachesAll tables := by
  funext c
  simp only [ReachesAll, leads_congr h (List.Perm.refl r.arrows), h.mem_iff]

theorem entered_congr (h : tables'.Perm tables) : r.Entered tables' = r.Entered tables := by
  funext c
  simp only [Entered, leads_congr h (List.Perm.refl r.arrows)]

/-! ### Tables that start apart -/

/-- Some table behind the first one is joined to none of those before it. -/
theorem hasCrossJoin_iff_standsBefore :
    hasCrossJoin tables r = true ↔
      ∃ c, (∃ d, StandsBefore (finishOrder tables r) d c) ∧
        ∀ d, StandsBefore (finishOrder tables r) d c → r.areJoined c d = false := by
  have hnd := finishOrder_nodup tables r
  -- the tables before one are the first tables of the order
  have htake : ∀ {i c d}, (finishOrder tables r)[i]? = some c →
      (d ∈ (finishOrder tables r).take i ↔ StandsBefore (finishOrder tables r) d c) := by
    intro i c d hc
    refine ⟨fun hd => .of_mem_take hd hc, fun hbefore => ?_⟩
    have hlt := hbefore.idxOf_lt hnd
    rw [idxOf_of_getElem? hnd hc] at hlt
    exact (List.mem_take_iff_idxOf_lt hbefore.left_mem).mpr hlt
  rw [hasCrossJoin, startsApart_iff]
  simp only [List.nil_append]
  constructor
  · rintro ⟨i, c, hc, hne, hapart⟩
    obtain ⟨d, hd⟩ := List.exists_mem_of_ne_nil _ hne
    exact ⟨c, ⟨d, (htake hc).mp hd⟩, fun d hd => hapart d ((htake hc).mpr hd)⟩
  · rintro ⟨c, ⟨d, hd⟩, hapart⟩
    have hc := List.getElem?_idxOf hd.right_mem
    exact ⟨_, c, hc, List.ne_nil_of_mem ((htake hc).mpr hd), fun d hd =>
      hapart d ((htake hc).mp hd)⟩

/-- A table is joined to each table that a join leads to it from. -/
theorem Coherent.not_leads_of_apart (hr : r.Coherent)
    (hapart : ∀ d, StandsBefore (finishOrder tables r) d c → r.areJoined c d = false)
    (hbefore : StandsBefore (finishOrder tables r) a c) : ¬ r.Leads tables a c := fun hlead =>
  Bool.false_ne_true ((hapart a hbefore).symm.trans (hr.areJoined_of_leads hlead))

/-- What a table leads to stays in a part of the order that no join leaves. -/
theorem mem_of_reflTransGen {part : List ContainerId}
    (hclosed : ∀ a ∈ part, ∀ b ∈ (JoinGraph.ofTables tables r.inOrder).nodes,
      (a, b) ∈ (JoinGraph.ofTables tables r.inOrder).edges → b ∈ part)
    (hc : c ∈ part) (hpath : ReflTransGen (r.Leads tables) c a) : a ∈ part := by
  induction hpath with
  | refl => exact hc
  | tail _ hlead ih =>
    exact hclosed _ ih _ (List.mem_eraseDups.mpr hlead.2.1) (mem_edges_ofTables.mpr hlead)

/-! ### Every order of the list -/

/-- **If no table reaches all, there is a cross join.** Without one, the first table would reach
each table: a join with an earlier table leads from it, or a way leads from it all the same. -/
theorem Coherent.hasCrossJoin_of_noneReachesAll (hr : r.Coherent) (htables : tables ≠ [])
    (hnone : ∀ s ∈ tables, ¬ r.ReachesAll tables s) : hasCrossJoin tables r = true := by
  by_contra hclean
  obtain ⟨c, hc⟩ := List.exists_mem_of_ne_nil tables htables
  have hpos := List.length_pos_of_mem (mem_finishOrder (r := r).mpr hc)
  have hfirst := List.getElem?_eq_getElem hpos
  generalize (finishOrder tables r)[0] = first at hfirst
  refine hnone first (mem_finishOrder.mp (List.mem_of_getElem? hfirst)) ?_
  refine forall_of_noCrossJoin (Bool.eq_false_iff.mpr hclean) (fun d hd => ?_) ?_
  · rw [Option.some.inj (hfirst.symm.trans hd)]
  · intro c d hbefore hjoined hd
    have hnd := finishOrder_nodup tables r
    have hcd : c ≠ d := fun heq => (heq ▸ hbefore).asymm hnd (heq ▸ hbefore)
    rcases hr.leads_of_areJoined (mem_finishOrder.mp hbefore.right_mem)
      (mem_finishOrder.mp hbefore.left_mem) hjoined with hlead | hlead
    · -- the join leads backwards, so there is a way the other way round
      rcases hlead.path_back hcd with hlater | hpath
      · exact absurd hlater (hbefore.asymm hnd)
      · exact hd.trans hpath.to_reflTransGen
    · exact hd.tail hlead

/-- **If each table reaches all or is entered, there is no cross join.** A table that starts apart
is a root of the search, so it leads to no earlier table, and a join that enters it comes from
one. -/
theorem Coherent.noCrossJoin_of_entered (hr : r.Coherent)
    (h : ∀ c ∈ tables, r.ReachesAll tables c ∨ r.Entered tables c) :
    hasCrossJoin tables r = false := by
  rw [Bool.eq_false_iff]
  intro hcross
  obtain ⟨c, ⟨d, hd⟩, hapart⟩ := hasCrossJoin_iff_standsBefore.mp hcross
  have hc : c ∈ tables := mem_finishOrder.mp hd.right_mem
  rcases h c hc with hall | ⟨a, hlead, hback⟩
  · rcases JoinGraph.finishOrder_entered_or_root (JoinGraph.ofTables tables r.inOrder)
      (nodup_eraseDups tables) (List.mem_eraseDups.mpr hc) with
        ⟨a, hedge, hbefore⟩ | ⟨later, below, horder, hclosed⟩
    · exact hr.not_leads_of_apart hapart hbefore (mem_edges_ofTables.mp hedge)
    · -- a root that reaches all stands before all
      have hbelow := mem_of_reflTransGen hclosed List.mem_cons_self
        (hall d (mem_finishOrder.mp hd.left_mem))
      exact not_standsBefore_of_mem horder (finishOrder_nodup tables r) hbelow hd
  · have hac : a ≠ c := fun heq => hback (heq ▸ .refl)
    rcases hlead.path_back hac with hbefore | hpath
    · exact hr.not_leads_of_apart hapart hbefore hlead
    · exact hback hpath.to_reflTransGen

/-! ### Some order of the list -/

/-- Any table of a list can be put last. -/
theorem exists_perm_last (hc : c ∈ tables) :
    ∃ tables' : List ContainerId, tables'.Perm tables ∧
      ∃ nodes, tables'.eraseDups = nodes ++ [c] := by
  refine ⟨tables.filter (· ≠ c) ++ tables.filter (fun d => !decide (d ≠ c)),
    List.filter_append_perm _ _, (tables.filter (· ≠ c)).eraseDups, ?_⟩
  -- all occurrences go to the end, and removing repetitions leaves the first of them there
  have hlast : tables.filter (fun d => !decide (d ≠ c)) =
      List.replicate (tables.count c) c := by
    rw [← List.filter_eq]
    simp
  have hcount : tables.count c = tables.count c - 1 + 1 := by
    have hpos := List.count_pos_iff.mpr hc
    omega
  have hfilter : ∀ n, (List.replicate n c).filter (fun d => !d == c) = [] := by
    intro n
    simp
  rw [List.eraseDups_append, hlast, hcount, List.replicate_succ]
  congr 1
  simp [List.removeAll, List.eraseDups_cons, hfilter]

/-- **A table that neither reaches all nor is entered starts apart if it is put last.** The search
starts with it, and what it leads to stands behind it. -/
theorem Coherent.exists_perm_hasCrossJoin (hr : r.Coherent) (hc : c ∈ tables)
    (hreach : ¬ r.ReachesAll tables c) (henter : ¬ r.Entered tables c) :
    ∃ tables' : List ContainerId, tables'.Perm tables ∧ hasCrossJoin tables' r = true := by
  obtain ⟨tables', hperm, nodes, hlast⟩ := exists_perm_last hc
  refine ⟨tables', hperm, hasCrossJoin_iff_standsBefore.mpr ⟨c, ?_⟩⟩
  rw [← reachesAll_congr hperm] at hreach
  rw [← entered_congr hperm] at henter
  obtain ⟨later, below, horder, hpaths, hclosed⟩ :=
    JoinGraph.finishOrder_of_last (JoinGraph.ofTables tables' r.inOrder) (nodup_eraseDups tables')
      hlast
  have horder : finishOrder tables' r = later ++ c :: below := horder
  constructor
  · -- some table is not reached, so it is not among those behind
    simp only [ReachesAll, not_forall] at hreach
    obtain ⟨t, ht, hnot⟩ := hreach
    have hmem : t ∈ later ++ c :: below := horder ▸ mem_finishOrder.mpr ht
    rw [horder]
    refine ⟨t, .of_mem_append ?_ List.mem_cons_self⟩
    refine (List.mem_append.mp hmem).resolve_right fun hbelow => hnot ?_
    exact ReflTransGen.mono (fun _ _ hlead => mem_edges_ofTables.mp hlead.1) _ _
      (hpaths t hbelow)
  · intro d hd
    -- a table before it is not reached from it
    have hunreached : ¬ ReflTransGen (r.Leads tables') c d := fun hpath =>
      not_standsBefore_of_mem horder (finishOrder_nodup tables' r)
        (mem_of_reflTransGen hclosed List.mem_cons_self hpath) hd
    rw [Bool.eq_false_iff]
    intro hjoined
    rcases hr.leads_of_areJoined (mem_finishOrder.mp hd.right_mem)
      (mem_finishOrder.mp hd.left_mem) hjoined with hlead | hlead
    · exact hunreached (.single hlead)
    · exact henter ⟨d, hlead, hunreached⟩

/-- **A table that reaches all leaves no cross join if it is put last.** It is named first, and
every other table is joined to an earlier one. -/
theorem Coherent.exists_perm_noCrossJoin (hr : r.Coherent) (hs : s ∈ tables)
    (hreach : r.ReachesAll tables s) :
    ∃ tables' : List ContainerId, tables'.Perm tables ∧ hasCrossJoin tables' r = false := by
  obtain ⟨tables', hperm, nodes, hlast⟩ := exists_perm_last hs
  refine ⟨tables', hperm, Bool.eq_false_iff.mpr fun hcross => ?_⟩
  obtain ⟨c, ⟨d, hd⟩, hapart⟩ := hasCrossJoin_iff_standsBefore.mp hcross
  rw [← reachesAll_congr hperm] at hreach
  obtain ⟨later, below, horder, hpaths, hclosed⟩ :=
    JoinGraph.finishOrder_of_last (JoinGraph.ofTables tables' r.inOrder) (nodup_eraseDups tables')
      hlast
  have hbelow : ∀ {t}, t ∈ finishOrder tables' r → t ∈ s :: below := fun ht =>
    mem_of_reflTransGen hclosed List.mem_cons_self (hreach _ (mem_finishOrder.mp ht))
  rcases ReflTransGen.cases_tail (hpaths c (hbelow hd.right_mem)) with rfl | ⟨a, -, hedge, hbefore⟩
  · -- nothing stands before the table itself
    exact not_standsBefore_of_mem horder (finishOrder_nodup tables' r) (hbelow hd.left_mem) hd
  · exact hr.not_leads_of_apart hapart hbefore (mem_edges_ofTables.mp hedge)

theorem Coherent.exists_perm_hasCrossJoin_iff (hr : r.Coherent) (tables : List ContainerId) :
    (∃ tables' : List ContainerId, tables'.Perm tables ∧ hasCrossJoin tables' r = true) ↔
      ∃ c ∈ tables, ¬ r.ReachesAll tables c ∧ ¬ r.Entered tables c := by
  constructor
  · rintro ⟨tables', hperm, hcross⟩
    -- otherwise each table reaches all or is entered from outside, and then no order has a cross
    -- join
    by_contra hnone
    push Not at hnone
    rw [← reachesAll_congr hperm, ← entered_congr hperm] at hnone
    refine Bool.false_ne_true ((hr.noCrossJoin_of_entered fun c hc => ?_).symm.trans hcross)
    exact or_iff_not_imp_left.mpr (hnone c (hperm.mem_iff.mp hc))
  · rintro ⟨c, hc, hreach, henter⟩
    exact hr.exists_perm_hasCrossJoin hc hreach henter

theorem Coherent.exists_perm_noCrossJoin_iff (hr : r.Coherent) (tables : List ContainerId) :
    (∃ tables' : List ContainerId, tables'.Perm tables ∧ hasCrossJoin tables' r = false) ↔
      tables = [] ∨ ∃ s ∈ tables, r.ReachesAll tables s := by
  constructor
  · rintro ⟨tables', hperm, hclean⟩
    refine or_iff_not_imp_left.mpr fun hne => ?_
    -- if no table reaches all the others, the verdict is the same for every list
    by_contra hnone
    push Not at hnone
    rw [← reachesAll_congr hperm] at hnone
    refine Bool.false_ne_true (hclean.symm.trans (hr.hasCrossJoin_of_noneReachesAll ?_ ?_))
    · exact fun hnil => hne (List.Perm.eq_nil (hnil ▸ hperm.symm))
    · exact fun s hs => hnone s (hperm.mem_iff.mp hs)
  · rintro (rfl | ⟨s, hs, hreach⟩)
    · exact ⟨[], .nil, rfl⟩
    · exact hr.exists_perm_noCrossJoin hs hreach

/-- **When the verdict depends on the order of the list.** For every registry that changes lead to,
and every list of tables:

* some order of the list has a cross join if and only if some table of it neither reaches all nor is
  entered;
* some order has none if and only if the list is empty or some table of it reaches all;
* so all orders have the same verdict if and only if every table reaches all or is entered, or no
  table reaches all. -/
theorem Built.hasCrossJoin_perm_iff (hr : r.Built) (tables : List ContainerId) :
    ((∃ tables' : List ContainerId, tables'.Perm tables ∧ hasCrossJoin tables' r = true) ↔
      ∃ c ∈ tables, ¬ r.ReachesAll tables c ∧ ¬ r.Entered tables c) ∧
    ((∃ tables' : List ContainerId, tables'.Perm tables ∧ hasCrossJoin tables' r = false) ↔
      tables = [] ∨ ∃ s ∈ tables, r.ReachesAll tables s) ∧
    ((∀ tables₁ tables₂ : List ContainerId, tables₁.Perm tables → tables₂.Perm tables →
        hasCrossJoin tables₁ r = hasCrossJoin tables₂ r) ↔
      ((∃ s ∈ tables, r.ReachesAll tables s) →
        ∀ c ∈ tables, r.ReachesAll tables c ∨ r.Entered tables c)) := by
  have hsome := hr.coherent.exists_perm_hasCrossJoin_iff tables
  have hclean := hr.coherent.exists_perm_noCrossJoin_iff tables
  refine ⟨hsome, hclean, ?_, ?_⟩
  · intro hsame hall
    obtain ⟨tables₁, hperm₁, hcross₁⟩ := hclean.mpr (Or.inr hall)
    by_contra hnone
    push Not at hnone
    obtain ⟨tables₂, hperm₂, hcross₂⟩ := hsome.mpr hnone
    exact Bool.false_ne_true (hcross₁.symm.trans ((hsame _ _ hperm₁ hperm₂).trans hcross₂))
  · intro hone tables₁ tables₂ hperm₁ hperm₂
    by_cases hall : ∃ s ∈ tables, r.ReachesAll tables s
    · -- no order has a cross join
      have hnever : ∀ {tables' : List ContainerId}, tables'.Perm tables →
          hasCrossJoin tables' r = false := fun hperm => Bool.eq_false_iff.mpr fun hcross => by
        obtain ⟨c, hc, hreach, henter⟩ := hsome.mp ⟨_, hperm, hcross⟩
        exact (hone hall c hc).elim hreach henter
      rw [hnever hperm₁, hnever hperm₂]
    · by_cases hnil : tables = []
      · rw [hnil] at hperm₁ hperm₂
        rw [hperm₁.eq_nil, hperm₂.eq_nil]
      · -- every order has one
        have halways : ∀ {tables' : List ContainerId}, tables'.Perm tables →
            hasCrossJoin tables' r = true := fun hperm => (Bool.not_eq_false _).mp fun hcross =>
          (hclean.mp ⟨_, hperm, hcross⟩).elim hnil hall
        rw [halways hperm₁, halways hperm₂]

/-- Two tables that are joined in both directions, and a third one in front of the second. -/
def sampleLead : JoinRegistry :=
  ((empty.extend (.sample 10 1 2)).extend (.sample 11 2 1)).extend (.sample 12 3 2)

theorem sampleLead_built : sampleLead.Built := by
  refine .extend (.extend (.extend .empty ?_ ?_) ?_ ?_) ?_ ?_ <;> decide

/-- In the sample the first table neither reaches the third one nor is it entered, so some order of
the list has a cross join. -/
theorem hasCrossJoin_perm_sampleLead :
    sampleLead.Built ∧
      ∃ tables' : List ContainerId, tables'.Perm [⟨.ofNat 1⟩, ⟨.ofNat 2⟩, ⟨.ofNat 3⟩] ∧
        hasCrossJoin tables' sampleLead = true := by
  have hback : sampleLead.Leads [⟨.ofNat 1⟩, ⟨.ofNat 2⟩, ⟨.ofNat 3⟩] ⟨.ofNat 1⟩ ⟨.ofNat 2⟩ :=
    ⟨by decide, by decide, by decide⟩
  -- the third table is a source, so the first one reaches neither it nor all
  have hends : ∀ {a b}, sampleLead.Leads [⟨.ofNat 1⟩, ⟨.ofNat 2⟩, ⟨.ofNat 3⟩] a b →
      b ≠ ⟨.ofNat 3⟩ ∧ (b = ⟨.ofNat 1⟩ → a = ⟨.ofNat 2⟩) := by
    rintro a b ⟨-, -, j, hj, rfl, rfl⟩
    revert j
    decide
  refine ⟨sampleLead_built, (sampleLead_built.hasCrossJoin_perm_iff _).1.mpr
    ⟨⟨.ofNat 1⟩, by decide, ?_, ?_⟩⟩
  · intro hreach
    rcases ReflTransGen.cases_tail (hreach ⟨.ofNat 3⟩ (by decide)) with heq | ⟨a, -, hlead⟩
    · exact absurd heq (by decide)
    · exact (hends hlead).1 rfl
  · rintro ⟨a, hlead, hnot⟩
    rw [(hends hlead).2 rfl] at hnot
    exact hnot (.single hback)

/-- **The order of the list can decide.** In the sample the search comes to the first two tables
from the third one, unless the list has the first table last. -/
theorem hasCrossJoin_depends_on_order :
    ¬ ∀ r : JoinRegistry, r.Built → ∀ tables tables' : List ContainerId, tables'.Perm tables →
      hasCrossJoin tables' r = hasCrossJoin tables r := by
  intro hsame
  have hne : Uuid.ofNat 1 ≠ Uuid.ofNat 2 ∧ Uuid.ofNat 1 ≠ Uuid.ofNat 3 ∧
      Uuid.ofNat 2 ≠ Uuid.ofNat 3 := by decide
  -- with the third table last the search starts from a table that reaches both others
  have hfirst : finishOrder [⟨.ofNat 1⟩, ⟨.ofNat 2⟩, ⟨.ofNat 3⟩] sampleLead =
      [⟨.ofNat 3⟩, ⟨.ofNat 2⟩, ⟨.ofNat 1⟩] := by
    have hgraph : JoinGraph.ofTables [⟨.ofNat 1⟩, ⟨.ofNat 2⟩, ⟨.ofNat 3⟩] sampleLead.inOrder =
        ⟨[⟨.ofNat 1⟩, ⟨.ofNat 2⟩, ⟨.ofNat 3⟩], [(⟨.ofNat 1⟩, ⟨.ofNat 2⟩),
          (⟨.ofNat 2⟩, ⟨.ofNat 1⟩), (⟨.ofNat 3⟩, ⟨.ofNat 2⟩)]⟩ := by decide
    rw [finishOrder, hgraph]
    simp [JoinGraph.finishOrder, JoinGraph.searchFrom, JoinGraph.search, JoinGraph.successors, hne,
      hne.1.symm, hne.2.1.symm, hne.2.2.symm]
  -- with the first one last it is searched before the third is reached
  have hlast : finishOrder [⟨.ofNat 2⟩, ⟨.ofNat 3⟩, ⟨.ofNat 1⟩] sampleLead =
      [⟨.ofNat 3⟩, ⟨.ofNat 1⟩, ⟨.ofNat 2⟩] := by
    have hgraph : JoinGraph.ofTables [⟨.ofNat 2⟩, ⟨.ofNat 3⟩, ⟨.ofNat 1⟩] sampleLead.inOrder =
        ⟨[⟨.ofNat 2⟩, ⟨.ofNat 3⟩, ⟨.ofNat 1⟩], [(⟨.ofNat 1⟩, ⟨.ofNat 2⟩),
          (⟨.ofNat 2⟩, ⟨.ofNat 1⟩), (⟨.ofNat 3⟩, ⟨.ofNat 2⟩)]⟩ := by decide
    rw [finishOrder, hgraph]
    simp [JoinGraph.finishOrder, JoinGraph.searchFrom, JoinGraph.search, JoinGraph.successors, hne,
      hne.1.symm, hne.2.1.symm, hne.2.2.symm]
  have hverdict := hsame sampleLead sampleLead_built [⟨.ofNat 1⟩, ⟨.ofNat 2⟩, ⟨.ofNat 3⟩]
    [⟨.ofNat 2⟩, ⟨.ofNat 3⟩, ⟨.ofNat 1⟩] (by decide)
  rw [hasCrossJoin, hasCrossJoin, hfirst, hlast] at hverdict
  revert hverdict
  decide

end JoinRegistry

end VisualQuery
