import VisualQuery.Proofs.JoinRegistry.Built

/-!
# Runs of a registry

A registry that starts empty is asked one thing after the other: to register a join, to take one
out, to take all joins at a container out, or to set an outer flag. A request that is refused is
part of the run, and leaves the registry as it is. Whatever the requests are, the run stays among
the registries that changes lead to (`run_built`), so the invariant holds at its end.

The registration order and the index of a registry are kept up by hand, beside the map that holds
the joins. The main result of this module, `after_indexed`, says that neither drifts: the order
names exactly the joins that the map holds, and each look-up through the index gives what a scan of
these joins in registration order gives, with the same members, as often and in the same order.
-/

namespace VisualQuery.JoinRegistry

/-- A request to a registry. -/
inductive Request where
  | add (join : Join)
  | remove (id : JoinId)
  | removeContainer (c : ContainerId)
  | setOuter (id : JoinId) (side : Side) (outer : Bool)
deriving DecidableEq, Repr

/-- What a registry answers: the changed flags, the joins that were taken out, or a refusal. -/
inductive Answer where
  | added (id : JoinId) (changes : List OuterChange)
  | removed (join : Option Join)
  | cleared (joins : List Join)
  | flagged (changes : List OuterChange)
  | refused (cause : QueryError)
deriving DecidableEq, Repr

/-- Answers a request. -/
def perform (r : JoinRegistry) : Request → Answer × JoinRegistry
  | .add j =>
    match r.add j with
    | .ok (changes, r') => (.added j.id changes, r')
    | .error cause => (.refused (.topology cause), r)
  | .remove id =>
    match r.remove? id with
    | some (j, r') => (.removed (some j), r')
    | none => (.removed none, r)
  | .removeContainer c => (.cleared (r.removeContainer c).1, (r.removeContainer c).2)
  | .setOuter id side outer =>
    match r.setOuter id side outer with
    | .ok (changes, r') => (.flagged changes, r')
    | .error cause => (.refused cause, r)

/-- Answers requests one after the other. -/
def run (r : JoinRegistry) : List Request → List Answer × JoinRegistry
  | [] => ([], r)
  | e :: es =>
    let (answer, r) := r.perform e
    let (answers, r) := r.run es
    (answer :: answers, r)

/-- The registry after a run of requests to an empty one. -/
def after (requests : List Request) : JoinRegistry := (empty.run requests).2

variable {r : JoinRegistry}

theorem perform_built (h : r.Built) (e : Request) : (r.perform e).2.Built := by
  cases e with
  | add j =>
    rw [perform]
    split
    · next hadd => exact h.add hadd
    · exact h
  | remove id =>
    rw [perform]
    split
    · next hremove => exact h.remove hremove
    · exact h
  | removeContainer c => exact h.removeContainer c
  | setOuter id side outer =>
    rw [perform]
    split
    · next hset => exact h.setOuter hset
    · exact h

theorem run_built (h : r.Built) (requests : List Request) : (r.run requests).2.Built := by
  induction requests generalizing r with
  | nil => exact h
  | cons e es ih => exact ih (perform_built h e)

theorem coherent_after (requests : List Request) : (after requests).Coherent :=
  (run_built .empty requests).coherent

/-! ### The index and the joins -/

/-- An empty list is not kept in the index. -/
theorem Coherent.ne_nil_of_mem_adjacency (h : r.Coherent) {entry : ContainerId × List JoinId}
    (hmem : entry ∈ r.adjacency) : entry.2 ≠ [] := by
  intro hnil
  have hlookup : r.adjacency.lookup entry.1 = some [] :=
    (Keyed.lookup_eq_some_iff h.keys).mpr (hnil ▸ hmem)
  rw [h.listed] at hlookup
  unfold Adjacency.kept at hlookup
  split at hlookup
  · exact absurd hlookup (by simp)
  · next hne => exact hne (Option.some.inj hlookup)

/-- A join is listed once under each of its containers, and under no other one. -/
theorem Coherent.count_idsAt_eq (h : r.Coherent) {j : Join} (hj : j ∈ r.joins) (c : ContainerId) :
    (r.idsAt c).count j.id = if j.touches c = true then 1 else 0 := by
  by_cases htouch : j.touches c = true
  · obtain ⟨side, hside⟩ := Join.exists_sideOf? htouch
    rw [if_pos htouch, ← Join.container_of_sideOf? hside]
    exact h.count_idsAt hj side
  · rw [if_neg htouch, List.count_eq_zero, h.idsAt_eq]
    intro hid
    obtain ⟨k, hk, hkj⟩ := List.mem_map.mp hid
    obtain ⟨hkr, hkc⟩ := List.mem_filter.mp hk
    -- an identity belongs to one join, and that one does not touch the container
    rw [h.eq_of_id hkr hj hkj] at hkc
    exact htouch hkc

/-- **The map, the order and the index say the same.** After every run of requests to an empty
registry, of which any may be refused:

* the registration order has no repetitions, it names exactly the identities for which the map holds
  a join, and going through it gives each join of the map once;
* under a container the joins that touch it are listed, in registration order; so each join is
  listed once under each of its two containers and nowhere else, and no empty list is kept;
* between two containers, in either order, there are the joins that connect them, in registration
  order;
* no join leads from a container to itself;
* the consistency check accepts the registry. -/
theorem after_indexed (requests : List Request) :
    ((after requests).ids.Nodup ∧
      (∀ id, id ∈ (after requests).ids ↔ (after requests).contains id = true) ∧
      (after requests).inOrder.Perm (after requests).joins) ∧
    ((∀ c, (after requests).idsAt c =
        ((after requests).inOrder.filter (·.touches c)).map (·.id)) ∧
      (∀ j ∈ (after requests).joins, ∀ c,
        ((after requests).idsAt c).count j.id = if j.touches c = true then 1 else 0) ∧
      ((after requests).adjacency.map Prod.fst).Nodup ∧
      ∀ entry ∈ (after requests).adjacency, entry.2 ≠ []) ∧
    (∀ a b,
      (after requests).joinsBetween a b = (after requests).inOrder.filter (·.connects a b) ∧
      (after requests).joinsBetween b a = (after requests).inOrder.filter (·.connects a b)) ∧
    (∀ j ∈ (after requests).joins, j.left.container ≠ j.right.container) ∧
    (after requests).isConsistent = true := by
  have h := coherent_after requests
  rw [h.inOrder_eq]
  refine ⟨⟨h.nodup, fun _ => h.contains_iff.symm, .refl _⟩,
    ⟨h.idsAt_eq, fun j hj => h.count_idsAt_eq hj, h.keys,
      fun entry hentry => h.ne_nil_of_mem_adjacency hentry⟩,
    fun a b => ⟨h.joinsBetween_eq a b, ?_⟩, h.apart, h.isConsistent⟩
  rw [h.joinsBetween_eq]
  -- a join that leads from one container to the other connects them in either order
  refine List.filter_congr fun j _ => ?_
  unfold Join.connects
  exact Bool.or_comm _ _

end VisualQuery.JoinRegistry
