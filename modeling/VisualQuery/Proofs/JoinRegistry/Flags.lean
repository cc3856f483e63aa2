import Mathlib.Logic.Function.Basic
import VisualQuery.Proofs.JoinRegistry.Runs

/-!
# One outer flag for each container

A registry keeps an outer flag at both ends of every join and takes care that the ends at one
container agree. What it means to keep is less: the joins without any flags, and one flag for each
container that has joins. `FlagTable` is that, with the requests of a registry on it:

* a new join leaves the flags of the containers that have joins alone, whatever it brings along, and
  supplies those of the containers that have none;
* setting a flag sets that of the container, and nothing else;
* a container without joins has no flag, so its flag is forgotten with its last join.

The main result is `run_answers`: a registry and a table that are asked the same things, one after
the other, give the same answers, and at every moment the flags at the ends of the joins are those
of the table. The relation between the two is `FlagTable.Shows`. It is functional, as the table can
be read off the registry (`FlagTable.Shows.flag_eq`), and this is how each request is proved: what
the registry does is known from its invariant, and the flags it looks up are those of the table.
-/

namespace VisualQuery

/-- A join without outer flags. -/
structure Link where
  id : JoinId
  left : ContainerId × ItemId
  right : ContainerId × ItemId
  comparator : Comparator
  name : Option String
deriving DecidableEq, Repr

/-- The join without its flags. -/
def Join.link (j : Join) : Link :=
  ⟨j.id, (j.left.container, j.left.item), (j.right.container, j.right.item), j.comparator, j.name⟩

namespace Link

/-- The container on a side. -/
def container (l : Link) : Side → ContainerId
  | .left => l.left.1
  | .right => l.right.1

/-- The side a container is on; the left one comes first. -/
def sideOf? (l : Link) (c : ContainerId) : Option Side :=
  if l.container .left = c then some .left
  else if l.container .right = c then some .right
  else none

/-- Whether one of the ends is at a container. -/
def touches (l : Link) (c : ContainerId) : Bool := (l.sideOf? c).isSome

end Link

/-- Joins without flags in registration order, and a flag for each container that has joins. -/
structure FlagTable where
  links : List Link
  flag : ContainerId → Option Bool

namespace FlagTable

open JoinRegistry (Request Answer)

/-- No joins and no flags. -/
def empty : FlagTable := ⟨[], fun _ => none⟩

/-- A join with the flags of its containers. -/
def join (t : FlagTable) (l : Link) : Join :=
  { id := l.id
    left := ⟨l.left.1, l.left.2, (t.flag l.left.1).getD false⟩
    right := ⟨l.right.1, l.right.2, (t.flag l.right.1).getD false⟩
    comparator := l.comparator
    name := l.name }

/-- A new join. It supplies a flag where its container has none, and is overruled where it has. -/
def add (t : FlagTable) (j : Join) : FlagTable where
  links := t.links ++ [j.link]
  flag c :=
    match j.link.sideOf? c with
    | some side => some ((t.flag c).getD (j.atSide side).outer)
    | none => t.flag c

/-- The flag on one side of a new join, if it is overruled. -/
def overruledAt? (t : FlagTable) (j : Join) (side : Side) : Option OuterChange :=
  match t.flag (j.link.container side) with
  | some kept =>
    if (j.atSide side).outer = kept then none
    else some ⟨j.id, side, (j.atSide side).outer, kept⟩
  | none => none

/-- The flags of a new join that are overruled. -/
def overruled (t : FlagTable) (j : Join) : List OuterChange :=
  [Side.left, Side.right].filterMap (t.overruledAt? j)

/-- Some of the joins. A container that has none of them has no flag any more. -/
def keep (t : FlagTable) (p : Link → Bool) : FlagTable where
  links := t.links.filter p
  flag c := if (t.links.filter p).any (·.touches c) then t.flag c else none

/-- Another flag for a container. -/
def set (t : FlagTable) (c : ContainerId) (outer : Bool) : FlagTable :=
  { t with flag := Function.update t.flag c (some outer) }

/-- The ends that another flag for a container changes: all those at the container, or none. -/
def flipped (t : FlagTable) (c : ContainerId) (outer : Bool) : List OuterChange :=
  if t.flag c = some outer then []
  else t.links.filterMap fun l => (l.sideOf? c).map fun side => ⟨l.id, side, !outer, outer⟩

/-- Answers a request. -/
def perform (t : FlagTable) : Request → Answer × FlagTable
  | .add j =>
    if j.id ∈ t.links.map (·.id) then (.refused (.topology (.alreadyRegistered j.id)), t)
    else if j.left.container = j.right.container then
      (.refused (.topology (.selfJoin j.id j.left.container)), t)
    else (.added j.id (t.overruled j), t.add j)
  | .remove id => (.removed ((t.links.find? (·.id = id)).map t.join), t.keep (·.id ≠ id))
  | .removeContainer c =>
    (.cleared ((t.links.filter (·.touches c)).map t.join), t.keep (!·.touches c))
  | .setOuter id side outer =>
    match t.links.find? (·.id = id) with
    | none => (.refused (.unknownJoin id), t)
    | some l => (.flagged (t.flipped (l.container side) outer), t.set (l.container side) outer)

/-- Answers requests one after the other. -/
def run (t : FlagTable) : List Request → List Answer × FlagTable
  | [] => ([], t)
  | e :: es =>
    let (answer, t) := t.perform e
    let (answers, t) := t.run es
    (answer :: answers, t)

end FlagTable

/-! ### Joins without flags -/

namespace Join

@[simp] theorem link_container (j : Join) (side : Side) :
    j.link.container side = (j.atSide side).container := by
  cases side <;> rfl

@[simp] theorem link_sideOf? (j : Join) (c : ContainerId) : j.link.sideOf? c = j.sideOf? c := rfl

@[simp] theorem link_touches (j : Join) (c : ContainerId) : j.link.touches c = j.touches c := rfl

theorem link_setOuterAt (c : ContainerId) (outer : Bool) (j : Join) :
    (j.setOuterAt c outer).link = j.link := by
  unfold setOuterAt
  split
  · next side _ => cases side <;> rfl
  · rfl

end Join

namespace JoinRegistry

variable {r : JoinRegistry}

/-- A container has a flag if it has joins. -/
theorem Coherent.isSome_flagAt (h : r.Coherent) (c : ContainerId) :
    (r.flagAt c).isSome = true ↔ ∃ j ∈ r.joins, j.touches c = true := by
  constructor
  · -- without a join at the container there is no flag to be read
    intro hsome
    by_contra hnone
    have hflag : r.flagAt c = none :=
      flagAt_eq_none fun j hj => Bool.eq_false_iff.mpr fun hjc => hnone ⟨j, hj, hjc⟩
    rw [hflag] at hsome
    exact absurd hsome (by simp)
  · rintro ⟨j, hj, hjc⟩
    obtain ⟨side, hside⟩ := Join.exists_sideOf? hjc
    rw [← Join.container_of_sideOf? hside, h.flagAt_eq hj side]
    rfl

end JoinRegistry

namespace FlagTable

open JoinRegistry (Request)

variable {r : JoinRegistry} {t : FlagTable}

/-! ### What a registry shows of a table -/

/-- **The registry shows the table**: the joins are the same up to flags, each end has the flag of
its container, and no other container has a flag. -/
structure Shows (r : JoinRegistry) (t : FlagTable) : Prop where
  links : r.joins.map Join.link = t.links
  flag : ∀ j ∈ r.joins, ∀ side, t.flag (j.atSide side).container = some (j.atSide side).outer
  noFlag : ∀ c, (∀ j ∈ r.joins, Join.touches j c = false) → t.flag c = none

namespace Shows

theorem empty : Shows .empty .empty :=
  ⟨rfl, fun _ hj => absurd hj List.not_mem_nil, fun _ _ => rfl⟩

/-- The flag of a container is the one that the registry looks up. -/
theorem flag_eq (h : Shows r t) (hr : r.Coherent) (c : ContainerId) : t.flag c = r.flagAt c := by
  by_cases htouch : ∃ j ∈ r.joins, j.touches c = true
  · obtain ⟨j, hj, hjc⟩ := htouch
    obtain ⟨side, hside⟩ := Join.exists_sideOf? hjc
    rw [← Join.container_of_sideOf? hside, h.flag j hj side, hr.flagAt_eq hj side]
  · have hnone : ∀ j ∈ r.joins, Join.touches j c = false := fun j hj =>
      Bool.eq_false_iff.mpr fun hjc => htouch ⟨j, hj, hjc⟩
    rw [h.noFlag c hnone, JoinRegistry.flagAt_eq_none hnone]

/-- A registry with the invariant shows the table that is read off it. -/
theorem of_flag_eq (hr : r.Coherent) (hlinks : r.joins.map Join.link = t.links)
    (hflag : ∀ c, t.flag c = r.flagAt c) : Shows r t where
  links := hlinks
  flag := fun _ hj side => (hflag _).trans (hr.flagAt_eq hj side)
  noFlag := fun c hnone => (hflag c).trans (JoinRegistry.flagAt_eq_none hnone)

theorem ids (h : Shows r t) (hr : r.Coherent) : t.links.map (·.id) = r.ids := by
  rw [← h.links, ← hr.mapped, List.map_map]
  rfl

/-- The table gives a join back with its flags. -/
theorem join_link (h : Shows r t) {j : Join} (hj : j ∈ r.joins) : t.join j.link = j := by
  have hleft := h.flag j hj .left
  have hright := h.flag j hj .right
  change t.flag j.left.container = some j.left.outer at hleft
  change t.flag j.right.container = some j.right.outer at hright
  unfold join Join.link
  dsimp only
  rw [hleft, hright]
  rfl

/-- The table finds a join by its identity if the registry does. -/
theorem find? (h : Shows r t) (id : JoinId) :
    t.links.find? (·.id = id) = (r.get? id).map Join.link := by
  rw [← h.links, List.find?_map]
  rfl

/-- The table and the registry have the same joins of a kind. -/
theorem map_join_filter (h : Shows r t) (p : Link → Bool) :
    (t.links.filter p).map t.join = r.joins.filter fun j => p j.link := by
  rw [← h.links, List.filter_map, List.map_map]
  calc (r.joins.filter (p ∘ Join.link)).map (t.join ∘ Join.link)
      = (r.joins.filter (p ∘ Join.link)).map id :=
        List.map_congr_left fun j hj => h.join_link (List.mem_of_mem_filter hj)
    _ = r.joins.filter fun j => p j.link := List.map_id _

/-! ### The requests -/

theorem overruledAt?_eq (h : Shows r t) (hr : r.Coherent) (j : Join) (side : Side) :
    t.overruledAt? j side =
      JoinRegistry.forcedChange? j side (r.flagAt (j.atSide side).container) := by
  unfold overruledAt? JoinRegistry.forcedChange?
  rw [Join.link_container, h.flag_eq hr]
  cases r.flagAt (j.atSide side).container <;> rfl

theorem overruled_eq (h : Shows r t) (hr : r.Coherent) (j : Join) :
    t.overruled j = r.forcedChanges j := by
  have hpair : ∀ change : Side → Option OuterChange,
      [Side.left, Side.right].filterMap change =
        (change .left).toList ++ (change .right).toList := by
    intro change
    cases hleft : change .left <;> cases hright : change .right <;> simp [hleft, hright]
  unfold overruled JoinRegistry.forcedChanges
  rw [hpair, h.overruledAt?_eq hr, h.overruledAt?_eq hr]
  rfl

theorem add (h : Shows r t) (hr : r.Coherent) (j : Join) :
    (r.perform (.add j)).1 = (t.perform (.add j)).1 ∧
      Shows (r.perform (.add j)).2 (t.perform (.add j)).2 := by
  rw [JoinRegistry.perform, FlagTable.perform, hr.add_eq, h.ids hr]
  by_cases hid : j.id ∈ r.ids
  · rw [if_pos hid, if_pos hid]
    exact ⟨rfl, h⟩
  rw [if_neg hid, if_neg hid]
  by_cases hc : j.left.container = j.right.container
  · rw [if_pos hc, if_pos hc]
    exact ⟨rfl, h⟩
  rw [if_neg hc, if_neg hc]
  dsimp only
  refine ⟨by rw [h.overruled_eq hr], of_flag_eq (hr.extend hid hc) ?_ fun c => ?_⟩
  · -- flags apart, the join is registered as it comes
    show (r.joins ++ [r.forced j]).map Join.link = t.links ++ [j.link]
    rw [List.map_append, h.links]
    rfl
  · rw [r.flagAt_extend, ← h.flag_eq hr]
    cases hside : j.sideOf? c with
    | none => simp only [FlagTable.add, Join.link_sideOf?, hside]
    | some side => simp only [FlagTable.add, Join.link_sideOf?, hside]

/-- Keeping some of the joins. -/
theorem keep (h : Shows r t) {r' : JoinRegistry} {p : Link → Bool}
    (hjoins : r'.joins = r.joins.filter fun j => p j.link) : Shows r' (t.keep p) := by
  have hlinks : r'.joins.map Join.link = t.links.filter p := by
    rw [hjoins, ← h.links, List.filter_map]
    rfl
  refine ⟨hlinks, fun j hj side => ?_, fun c hnone => ?_⟩
  · -- the join itself keeps the flags of its containers
    have htouch : (t.links.filter p).any (·.touches (j.atSide side).container) = true :=
      List.any_eq_true.mpr ⟨j.link, hlinks ▸ List.mem_map_of_mem hj, j.touches_atSide side⟩
    rw [hjoins] at hj
    exact (if_pos htouch).trans (h.flag j (List.mem_of_mem_filter hj) side)
  · refine if_neg fun htouch => ?_
    obtain ⟨l, hl, hlc⟩ := List.any_eq_true.mp htouch
    rw [← hlinks] at hl
    obtain ⟨j, hj, rfl⟩ := List.mem_map.mp hl
    rw [Join.link_touches, hnone j hj] at hlc
    exact absurd hlc Bool.false_ne_true

theorem remove (h : Shows r t) (id : JoinId) :
    (r.perform (.remove id)).1 = (t.perform (.remove id)).1 ∧
      Shows (r.perform (.remove id)).2 (t.perform (.remove id)).2 := by
  rw [JoinRegistry.perform, FlagTable.perform, JoinRegistry.remove?_eq, h.find?]
  cases hget : r.get? id with
  | none =>
    -- no join has the identity, so all of them are kept
    refine ⟨rfl, h.keep (List.filter_eq_self.mpr fun j hj => ?_).symm⟩
    rw [decide_eq_true_iff]
    rintro rfl
    exact Keyed.find?_eq_none_iff.mp hget (List.mem_map_of_mem hj)
  | some j =>
    obtain ⟨hj, rfl⟩ := JoinRegistry.get?_eq_some hget
    refine ⟨?_, h.keep rfl⟩
    rw [Option.map_some, Option.map_some, Option.map_some, h.join_link hj]

theorem removeContainer (h : Shows r t) (hr : r.Coherent) (c : ContainerId) :
    (r.perform (.removeContainer c)).1 = (t.perform (.removeContainer c)).1 ∧
      Shows (r.perform (.removeContainer c)).2 (t.perform (.removeContainer c)).2 := by
  obtain ⟨htaken, -, hkept⟩ := hr.removeContainer_eq c
  rw [JoinRegistry.perform, FlagTable.perform, htaken, h.map_join_filter]
  exact ⟨rfl, h.keep hkept⟩

/-- The ends that are changed are those at the container, if its flag is another one. -/
theorem flipped_eq (h : Shows r t) (c : ContainerId) (outer : Bool) :
    t.flipped c outer = r.joins.filterMap (JoinRegistry.outerChange? c outer) := by
  -- what the model holds for the container is what each of its joins says
  have hend : ∀ j ∈ r.joins, ∀ side, j.sideOf? c = some side →
      t.flag c = some (j.atSide side).outer := by
    intro j hj side hside
    rw [← h.flag j hj side, Join.container_of_sideOf? hside]
  unfold flipped
  split
  · next hsame =>
    refine (List.filterMap_eq_nil_iff.mpr fun j hj => ?_).symm
    unfold JoinRegistry.outerChange?
    cases hside : j.sideOf? c with
    | none => rfl
    | some side =>
      have hflag := hend j hj side hside
      rw [hsame] at hflag
      rw [Option.bind_some, if_pos (Option.some.inj hflag).symm]
  · next hother =>
    rw [← h.links, List.filterMap_map]
    refine List.filterMap_congr fun j hj => ?_
    show (j.sideOf? c).map _ = _
    unfold JoinRegistry.outerChange?
    cases hside : j.sideOf? c with
    | none => rfl
    | some side =>
      rw [hend j hj side hside, Option.some_inj] at hother
      have hold : (!outer) = (j.atSide side).outer := (Bool.eq_not.mpr hother).symm
      rw [Option.map_some, Option.bind_some, if_neg hother, hold]
      rfl

theorem setOuter (h : Shows r t) (hr : r.Coherent) (id : JoinId) (side : Side) (outer : Bool) :
    (r.perform (.setOuter id side outer)).1 = (t.perform (.setOuter id side outer)).1 ∧
      Shows (r.perform (.setOuter id side outer)).2 (t.perform (.setOuter id side outer)).2 := by
  rw [JoinRegistry.perform, FlagTable.perform, h.find?]
  cases hget : r.get? id with
  | none =>
    rw [JoinRegistry.setOuter_of_none hget]
    exact ⟨rfl, h⟩
  | some j =>
    obtain ⟨hj, rfl⟩ := JoinRegistry.get?_eq_some hget
    rw [hr.setOuter_eq hj]
    dsimp only [Option.map_some]
    rw [Join.link_container, h.flipped_eq]
    generalize hc : (j.atSide side).container = c
    refine ⟨rfl, ?_, fun k' hk' s => ?_, fun c' hnone => ?_⟩
    · show (r.joins.map (·.setOuterAt c outer)).map Join.link = t.links
      rw [List.map_map, ← h.links]
      exact List.map_congr_left fun k _ => k.link_setOuterAt c outer
    · obtain ⟨k, hk, rfl⟩ := List.mem_map.mp hk'
      rw [Join.setOuterAt_container, Join.setOuterAt_outer c outer (hr.apart k hk)]
      show Function.update t.flag c (some outer) _ = _
      by_cases hkc : (k.atSide s).container = c
      · rw [if_pos hkc, hkc, Function.update_self]
      · rw [if_neg hkc, Function.update_of_ne hkc, h.flag k hk s]
    · have htouches : ∀ k ∈ r.joins, Join.touches k c' = false := by
        intro k hk
        rw [← hnone _ (List.mem_map_of_mem hk), ← Join.link_touches, ← Join.link_touches,
          k.link_setOuterAt]
      -- the flag that is set is that of another container, which has a join
      have hne : c' ≠ c := by
        rintro rfl
        have hjc := htouches j hj
        rw [← hc, j.touches_atSide side] at hjc
        exact absurd hjc (by simp)
      exact (Function.update_of_ne hne _ _).trans (h.noFlag c' htouches)

/-- **The step of a run.** Asked the same thing, the registry and the table answer the same, and the
registry still shows the table. -/
theorem perform (h : Shows r t) (hr : r.Coherent) (e : Request) :
    (r.perform e).1 = (t.perform e).1 ∧ Shows (r.perform e).2 (t.perform e).2 := by
  cases e with
  | add j => exact h.add hr j
  | remove id => exact h.remove id
  | removeContainer c => exact h.removeContainer hr c
  | setOuter id side outer => exact h.setOuter hr id side outer

theorem run (h : Shows r t) (hr : r.Built) (requests : List Request) :
    (r.run requests).1 = (t.run requests).1 ∧ Shows (r.run requests).2 (t.run requests).2 := by
  induction requests generalizing r t with
  | nil => exact ⟨rfl, h⟩
  | cons e es ih =>
    obtain ⟨hanswer, hshows⟩ := h.perform hr.coherent e
    obtain ⟨hanswers, hend⟩ := ih hshows (JoinRegistry.perform_built hr e)
    exact ⟨congrArg₂ List.cons hanswer hanswers, hend⟩

end Shows

end FlagTable

namespace JoinRegistry

/-- **A registry implements one outer flag for each container.** Let an empty registry and an empty
table of flags be asked the same things in the same order. Then they give the same answers: the same
joins are refused, for the same cause; a new join has exactly the flags changed that its containers
overrule; setting a flag changes exactly the ends at the container that do not have it yet, in
registration order, each with its old and new flag; and joins that are taken out have the flags of
their containers. And after any such sequence, flags apart, the same joins are registered in the
same order, each end has the flag that the table has for its container, and the table has flags for
exactly the containers that have joins. -/
theorem run_answers (requests : List Request) :
    (empty.run requests).1 = (FlagTable.empty.run requests).1 ∧
    (empty.run requests).2.inOrder.map Join.link = (FlagTable.empty.run requests).2.links ∧
    (∀ j ∈ (empty.run requests).2.joins, ∀ side,
      (FlagTable.empty.run requests).2.flag (j.atSide side).container =
        some (j.atSide side).outer) ∧
    ∀ c, ((FlagTable.empty.run requests).2.flag c).isSome = true ↔
      ∃ j ∈ (empty.run requests).2.joins, j.touches c = true := by
  obtain ⟨hanswers, hshows⟩ := FlagTable.Shows.empty.run .empty requests
  have hr : (empty.run requests).2.Coherent := (run_built .empty requests).coherent
  refine ⟨hanswers, hr.inOrder_eq ▸ hshows.links, hshows.flag, fun c => ?_⟩
  rw [hshows.flag_eq hr]
  exact hr.isSome_flagAt c

end JoinRegistry

end VisualQuery
