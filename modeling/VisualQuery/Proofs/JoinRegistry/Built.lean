import VisualQuery.Proofs.JoinRegistry.Changes

/-!
# Registries that changes lead to

A registry by itself starts empty and goes on with changes. Whatever the changes are, the registry
has its invariant (`Built.coherent`): the empty one has it, and each change keeps it.
-/

namespace VisualQuery

namespace JoinRegistry

/-- **The registries that changes lead to**, from the empty one. A change that is refused, or that
finds no join to take out, leaves the registry as it is and adds no case. -/
inductive Built : JoinRegistry → Prop where
  /-- No joins. -/
  | empty : Built .empty
  /-- A join is registered. -/
  | add {r r' : JoinRegistry} (h : Built r) {j : Join} {changes : List OuterChange}
    (hadd : r.add j = .ok (changes, r')) : Built r'
  /-- A join is taken out. -/
  | remove {r r' : JoinRegistry} (h : Built r) {id : JoinId} {j : Join}
    (hremove : r.remove? id = some (j, r')) : Built r'
  /-- All joins at a container are taken out. -/
  | removeContainer {r : JoinRegistry} (h : Built r) (c : ContainerId) :
    Built (r.removeContainer c).2
  /-- The outer flag of a container is set through one of its joins. -/
  | setOuter {r r' : JoinRegistry} (h : Built r) {id : JoinId} {side : Side} {outer : Bool}
    {changes : List OuterChange} (hset : r.setOuter id side outer = .ok (changes, r')) : Built r'

variable {r r' : JoinRegistry}

/-- What is known once an outer flag is set. -/
theorem Coherent.of_setOuter (h : r.Coherent) {id : JoinId} {side : Side} {outer : Bool}
    {changes : List OuterChange} (hset : r.setOuter id side outer = .ok (changes, r')) :
    ∃ j ∈ r.joins, j.id = id ∧ r' = r.setOuterAt (j.atSide side).container outer := by
  cases hget : r.get? id with
  | some j =>
    obtain ⟨hj, rfl⟩ := get?_eq_some hget
    rw [h.setOuter_eq hj] at hset
    exact ⟨j, hj, rfl, (Prod.mk.inj (Except.ok.inj hset)).2.symm⟩
  | none =>
    rw [setOuter_of_none hget] at hset
    exact absurd hset (by simp)

/-- **Every registry that changes lead to has the invariant.** -/
theorem Built.coherent (h : r.Built) : r.Coherent := by
  -- one case for each way in which a registry comes about
  induction h with
  | empty => exact .empty
  | add _ hadd ih => exact (ih.of_add hadd).2.2
  | remove _ hremove ih =>
    rw [remove?_eq, Option.map_eq_some_iff] at hremove
    obtain ⟨j, hj, heq⟩ := hremove
    obtain ⟨-, rfl⟩ := Prod.mk.inj heq
    exact ih.without (get?_eq_some hj).1
  | removeContainer _ c ih => exact (ih.removeContainer_eq c).2.1
  | setOuter _ hset ih =>
    obtain ⟨j, -, -, rfl⟩ := ih.of_setOuter hset
    exact ih.setOuterAt _ _

/-- A new join between two containers can be registered. -/
theorem Built.extend (h : r.Built) {j : Join} (hid : j.id ∉ r.ids)
    (hc : j.left.container ≠ j.right.container) : (r.extend j).Built := by
  have hadd := h.coherent.add_eq j
  rw [if_neg hid, if_neg hc] at hadd
  exact h.add hadd

end JoinRegistry

/-- A join for samples, between two containers that are given by number. -/
def Join.sample (id left right : Nat) : Join :=
  { id := ⟨.ofNat id⟩
    left := ⟨⟨.ofNat left⟩, ⟨.ofNat left⟩, false⟩
    right := ⟨⟨.ofNat right⟩, ⟨.ofNat right⟩, false⟩
    comparator := .eq
    name := none }

end VisualQuery
