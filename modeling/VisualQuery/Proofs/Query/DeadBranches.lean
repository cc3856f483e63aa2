import VisualQuery.Proofs.Accounts.Reset
import VisualQuery.Proofs.CompoundEdits.Moves
import VisualQuery.Proofs.Document.Copies

/-!
# Failures that cannot happen

Some branches of the changes are there in case the parts of a query do not agree: a join that is
listed under a table that it does not touch, a table or an item that is gone in the middle of its
own removal, a table that stays behind in a reset, a join or a selected item that a copy leaves out.
Several of them are swallowed, so if one of them were taken something would be lost without a word.
None of them is, for a query with the invariant.

* The registry only ever refuses a join whose identity is taken or whose ends are at one table, and
  a join that is not there (`JoinRegistry.Coherent.add_ne_touchesNeither`,
  `JoinRegistry.Coherent.setOuter_ne_touchesNeither`).
* A removal is refused before its compound edit is opened or not at all (`Query.FailsEarly`).
* A reset is the same as one that stops at the first failure (`Query.resetOrFail`), and that one
  does not stop. The crux is that the invariant holds again behind every table and every constant
  that is taken out, so what is left can be taken out as well.
* A copy is the query under other identities, list by list, so it is as long as the query in each.
-/

namespace VisualQuery

namespace JoinRegistry

variable {r : JoinRegistry}

theorem Coherent.add_ne_touchesNeither (h : r.Coherent) (j : Join) (k : JoinId) (c : ContainerId) :
    r.add j ≠ .error (.touchesNeither k c) := by
  rw [h.add_eq]
  split
  · exact fun heq => nomatch heq
  split
  · exact fun heq => nomatch heq
  · exact fun heq => nomatch heq

theorem Coherent.setOuter_ne_touchesNeither (h : r.Coherent) (id : JoinId) (side : Side)
    (outer : Bool) (k : JoinId) (c : ContainerId) :
    r.setOuter id side outer ≠ .error (.topology (.touchesNeither k c)) := by
  by_cases hid : id ∈ r.ids
  · obtain ⟨j, hj, rfl⟩ := h.mem_ids.mp hid
    rw [h.setOuter_eq hj]
    exact fun heq => nomatch heq
  · rw [setOuter_of_none (h.get?_eq_none_iff.mpr hid)]
    exact fun heq => nomatch heq

end JoinRegistry

namespace Query

open Change
open Document (ofQuery)

variable {α β : Type} {q : Query}

/-! ### Removals -/

/-- Under its guard the change opens a compound edit in which its body ends well; otherwise it is
refused at once, and nothing has happened. -/
def FailsEarly (guard : Prop) (m body : Change α) (q : Query) : Prop :=
  (guard → ∃ message a, m q = asCompoundEdit message body q ∧
    (body (q.opened message)).result = .ok a) ∧
  (¬guard → ∃ cause, m q = .refused cause q)

theorem Coherent.removeTable_failsEarly (h : q.Coherent) (id : ContainerId) :
    FailsEarly (id ∈ q.tableIds) (Query.removeTable id) (detachTable id) q := by
  constructor
  · intro hid
    obtain ⟨k, hk, rfl⟩ := h.mem_tableIds.mp hid
    let message := "Removing table " ++ k.name
    -- opening a compound edit leaves the table where it is
    have hopened : k ∈ (q.opened message).tables := by
      rw [tables_opened]
      exact hk
    refine ⟨message, _, ?_, ((h.opened message).detachTable_of_mem hopened).1⟩
    have hne : k.id ≠ q.constants.id := fun heq => h.constants_notMem (heq ▸ hid)
    rw [Query.removeTable, get_bind, if_neg hne]
    show (get >>= _) q = _
    rw [get_bind, h.housed.table?_iff.mpr ⟨hk, rfl⟩]
    exact bind_of_silent (need_some _ k q)
  · intro hid
    by_cases hconstants : id = q.constants.id
    · rw [hconstants]
      exact ⟨_, removeTable_of_constants q⟩
    · refine ⟨_, removeTable_of_none hconstants ?_⟩
      cases hk : q.table? id with
      | none => rfl
      | some k =>
        obtain ⟨hmem, rfl⟩ := h.housed.table?_iff.mp hk
        exact absurd (h.id_mem_tableIds hmem) hid

theorem Coherent.removeItem_failsEarly (h : q.Coherent) (id : ItemId) :
    FailsEarly (id ∈ q.items.map (·.id)) (Query.removeItem id) (detachItem id) q := by
  constructor
  · intro hid
    obtain ⟨x, hx, rfl⟩ := List.mem_map.mp hid
    let message := "Removing item " ++ x.name
    -- the item was found outside the bracket and is still there inside
    have hopened : x ∈ (q.opened message).items := by
      rw [items_opened]
      exact hx
    refine ⟨message, _, ?_, ((h.opened message).detachItem_of_mem hopened).1⟩
    rw [Query.removeItem, get_bind, h.item?_of_mem hx]
    exact bind_of_silent (need_some _ x q)
  · exact fun hid => ⟨_, h.removeItem_of_notMem hid⟩

/-! ### Resetting -/

/-- Removes the tables with the given identities; a table that cannot be removed is the end. -/
def detachTablesOrFail : List ContainerId → Change Unit
  | [] => pure ()
  | id :: ids => do
    let _ ← detachTable id
    detachTablesOrFail ids

/-- Resets a query; a table or a constant that cannot be removed is the end. -/
def resetOrFail (ids : BuiltinIds) : Change Unit :=
  asCompoundEdit "Resetting query" do
    detachTablesOrFail (← get).tableIds
    resetConstants ids
    clearSettings

/-- Where a change ends well, it does not matter whether its failure would have been swallowed. -/
theorem attempt_bind_of_ok {m : Change α} {f : Change β} {a : α} (h : (m q).result = .ok a) :
    (attempt m >>= fun _ => f) q = (m >>= fun _ => f) q := by
  rw [bind_apply, bind_apply, attempt_apply, h]

theorem Coherent.detachTables_eq_orFail (h : q.Coherent) {ids : List ContainerId} (hnd : ids.Nodup)
    (hids : ∀ id ∈ ids, id ∈ q.tableIds) : detachTables ids q = detachTablesOrFail ids q := by
  induction ids generalizing q with
  | nil => rfl
  | cons id ids ih =>
    rw [List.nodup_cons] at hnd
    obtain ⟨k, hk, rfl⟩ := h.mem_tableIds.mp (hids id List.mem_cons_self)
    have hfirst := h.detachTable_of_mem hk
    -- the others are still there, and the invariant holds again
    have hleft : ∀ id ∈ ids, id ∈ (q.withoutTable k).noted.tableIds := fun id hid =>
      mem_tableIds_withoutTable (hids id (List.mem_cons_of_mem _ hid)) fun heq => hnd.1 (heq ▸ hid)
    have hrest := ih (h.withoutTable hk).noted hnd.2 hleft
    unfold detachTables detachTablesOrFail
    rw [attempt_bind_of_ok hfirst.1, bind_of_reaches hfirst, bind_of_reaches hfirst, hrest]

/-- **Nothing is swallowed in a reset.** -/
theorem Coherent.reset_eq_orFail (h : q.Coherent) (ids : BuiltinIds) :
    Query.reset ids q = resetOrFail ids q := by
  let q₀ := q.opened "Resetting query"
  have h₀ : q₀.Coherent := h.opened _
  obtain ⟨q₁, -, hreach, h₁, -, hnone⟩ := h₀.detachAllTables_reaches
  have hconstants := h₁.resetConstants_reaches hnone ids
  have htables : detachTables q₀.tableIds q₀ = detachTablesOrFail q₀.tableIds q₀ :=
    h₀.detachTables_eq_orFail h₀.tableIds_nodup fun _ hid => hid
  have hreach' : Reaches (detachTablesOrFail q₀.tableIds) q₀ () q₁ := by
    rw [Reaches, ← htables]
    exact hreach
  -- inside the compound edit nothing fails that the first body would swallow
  have hbody : startOver ids q₀ =
      (do
        detachTablesOrFail (← get).tableIds
        resetConstants ids
        clearSettings : Change Unit) q₀ := by
    rw [startOver, get_bind, get_bind, bind_of_reaches hreach, bind_of_reaches hreach', htables,
      attempt_bind_of_ok hconstants.1]
  rw [reset_eq, resetOrFail, asCompoundEdit_apply, asCompoundEdit_apply, hbody]

/-! ### All of them -/

/-- **No internal failure happens** to a query that a history of edits comes to:

* no registration of a join and no change of an outer flag finds a join under a table that it does
  not touch;
* the removal of a table of the from-list or of an item of the query is made once its compound edit
  is open, and any other removal is refused before that;
* a reset is one that stops at the first failure, and it does not stop;
* a copy has a join for every join, a selected item for every selected item and a sort key for every
  sort key, in the same order and with everything that is said of them, as long as the identifiers
  that are drawn for it differ from each other. -/
theorem Reachable.no_internal_failure (hq : q.Reachable) :
    (∀ j k c, q.joins.add j ≠ .error (.touchesNeither k c)) ∧
    (∀ id side outer k c,
      q.joins.setOuter id side outer ≠ .error (.topology (.touchesNeither k c))) ∧
    (∀ id, FailsEarly (id ∈ q.tableIds) (Query.removeTable id) (detachTable id) q) ∧
    (∀ id, FailsEarly (id ∈ q.items.map (·.id)) (Query.removeItem id) (detachItem id) q) ∧
    (∀ ids : BuiltinIds, ids.toList.Nodup →
      Query.reset ids q = resetOrFail ids q ∧ (resetOrFail ids q).result = .ok ()) ∧
    ∀ s : IdSupply, s.Fresh (ofQuery q).identities.length → ∃ ρ : Relabeling,
      (q.duplicate.run s).1.joins.inOrder = q.joins.inOrder.map (Join.relabel ρ) ∧
      (q.duplicate.run s).1.selection = q.selection.map ρ.item ∧
      (q.duplicate.run s).1.sortList = q.sortList.map ρ.item := by
  have h := hq.coherent
  refine ⟨h.joins.add_ne_touchesNeither, h.joins.setOuter_ne_touchesNeither,
    h.removeTable_failsEarly, h.removeItem_failsEarly, fun ids hids => ?_, fun s hs => ?_⟩
  · -- on a coherent query the guarded reset and the unguarded one are the same
    have heq := h.reset_eq_orFail ids
    obtain ⟨q', hreach, -⟩ := h.reset_reaches hids
    exact ⟨heq, heq ▸ hreach.1⟩
  · -- nothing is dropped because the copy is the renamed document, list by list
    obtain ⟨ρ, hdraws⟩ := Relabeling.exists_draws h.identities_nodup hs
    have hcopy : ofQuery (q.duplicate.run s).1 = (ofQuery q).relabel ρ := by
      rw [h.duplicate_run hdraws]
      exact h.ofQuery_relabel ρ
    exact ⟨ρ, congrArg Document.joins hcopy, congrArg Document.selectedItems hcopy,
      congrArg Document.orderByItems hcopy⟩

/-- The sample query is reset and copied without a loss. -/
theorem no_internal_failure_sample :
    Session.sampleQuery.Reachable ∧ (BuiltinIds.mint.run (.after 100)).1.toList.Nodup ∧
      (IdSupply.after 100).Fresh (ofQuery Session.sampleQuery).identities.length ∧
      (resetOrFail (BuiltinIds.mint.run (.after 100)).1 Session.sampleQuery).result = .ok () ∧
      (Session.sampleQuery.duplicate.run (.after 100)).1.joins.inOrder.length = 1 ∧
      (Session.sampleQuery.duplicate.run (.after 100)).1.selection.length = 2 ∧
      (Session.sampleQuery.duplicate.run (.after 100)).1.sortList.length = 1 := by
  have hids : (BuiltinIds.mint.run (.after 100)).1.toList.Nodup := by decide
  have hfresh : (IdSupply.after 100).Fresh (ofQuery Session.sampleQuery).identities.length := by
    unfold IdSupply.Fresh
    decide +kernel
  obtain ⟨-, -, -, -, hreset, hcopy⟩ := Session.sampleQuery_reachable.no_internal_failure
  obtain ⟨ρ, hjoins, hselection, hsort⟩ := hcopy _ hfresh
  have hlengths : Session.sampleQuery.joins.inOrder.length = 1 ∧
      Session.sampleQuery.selection.length = 2 ∧ Session.sampleQuery.sortList.length = 1 := by
    decide
  -- renaming keeps lengths, so those of the original are the ones to compute
  rw [hjoins, hselection, hsort, List.length_map, List.length_map, List.length_map]
  exact ⟨Session.sampleQuery_reachable, hids, hfresh, (hreset _ hids).2, hlengths⟩

end Query

end VisualQuery
