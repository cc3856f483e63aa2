import VisualQuery.Proofs.Query.Removing
import VisualQuery.Query.Settings

/-!
# Changes to the query as a whole keep the invariant

A setting is written unless it has the value already, and the invariant reads none of them but the
filter, of which it only says that it is not blank. The alias and the position of a container are
not read either.

Resetting is a cascade: all tables are taken out, then all constants, and then the built-in
constants are put in under fresh identities. While these are entered in the index one by one the
invariant does not hold; it does again at the end (`Coherent.withBuiltins`).

Of what was in the query nothing is left then (`Coherent.reset_blank`). The steps of the cascade are
not needed to see this: none of them touches the settings, and once the tables and the constants are
gone, the invariant leaves no room for anything else (`Coherent.eq_bare`).
-/

namespace VisualQuery

theorem Text.nonBlank_nonBlank (text : Option String) :
    Text.nonBlank (Text.nonBlank text) = Text.nonBlank text := by
  rw [nonBlank, nonBlank, Option.filter_filter]
  simp only [Bool.and_self]

/-- Changing containers keeps each item in its container, if identities and items stay. -/
theorem Housed.mapContainers {containers : List Container} {index : ItemIndex}
    (h : Housed containers index) {f : Container → Container}
    (hf : ∀ k, (f k).id = k.id ∧ (f k).items = k.items) : Housed (containers.map f) index := by
  have hitems : (containers.map f).flatMap (·.items) = containers.flatMap (·.items) := by
    rw [List.flatMap_map]
    exact congrArg (fun items => containers.flatMap items) (funext fun k => (hf k).2)
  refine ⟨?_, ?_, h.index_nodup, ?_, ?_⟩
  · have hids : (containers.map f).map (·.id) = containers.map (·.id) :=
      List.map_map.trans (List.map_congr_left fun k _ => (hf k).1)
    rw [hids]
    exact h.containers_nodup
  · rw [hitems]
    exact h.items_nodup
  · intro x c
    rw [h.get?_iff]
    constructor
    · rintro ⟨k, hk, hkc, hx⟩
      exact ⟨f k, List.mem_map_of_mem hk, (hf k).1.trans hkc, (hf k).2.symm ▸ hx⟩
    · rintro ⟨k', hk', hkc, hx⟩
      obtain ⟨k, hk, rfl⟩ := List.mem_map.mp hk'
      exact ⟨k, hk, (hf k).1.symm.trans hkc, (hf k).2 ▸ hx⟩
  · intro k' hk' x hx
    obtain ⟨k, hk, rfl⟩ := List.mem_map.mp hk'
    rw [(hf k).1]
    exact h.parent k hk x ((hf k).2 ▸ hx)

namespace Query

open Change

variable {q : Query}

/-! ### Containers -/

/-- Changing a container beside its items keeps the invariant. -/
theorem Coherent.modifyContainer (h : q.Coherent) (id : ContainerId) {f : Container → Container}
    (hf : ∀ k, (f k).id = k.id ∧ (f k).items = k.items ∧ (f k).kind = k.kind) :
    (q.modifyContainer id f).Coherent := by
  let f' : Container → Container := fun k => if k.id = id then f k else k
  have hf' : ∀ k, (f' k).id = k.id ∧ (f' k).items = k.items ∧ (f' k).kind = k.kind := by
    intro k
    change (if k.id = id then f k else k).id = _ ∧ (if k.id = id then f k else k).items = _ ∧
      (if k.id = id then f k else k).kind = _
    split
    · exact hf k
    · exact ⟨rfl, rfl, rfl⟩
  have hkind : ∀ k, (f' k).isConstants = k.isConstants := fun k => by
    rw [Container.isConstants, (hf' k).2.2, Container.isConstants]
  -- all items stay where they are
  have hitems : (q.mapContainers f').items = q.items := by
    rw [items, items, containers_mapContainers, List.flatMap_map]
    exact congrArg (fun items => q.containers.flatMap items) (funext fun k => (hf' k).2.1)
  have hhoused : Housed (q.mapContainers f').containers q.itemIndex :=
    h.housed.mapContainers fun k => ⟨(hf' k).1, (hf' k).2.1⟩
  rw [h.housed.modifyContainer_eq]
  refine ⟨(Container.map_ids (fun k => (hf' k).1) q.tables).trans h.mapped, hhoused,
    (hkind _).trans h.constants_kind, ?_, ?_, ?_, h.joins, ?_, h.globalWhere⟩
  · intro k' hk'
    obtain ⟨k, hk, rfl⟩ := List.mem_map.mp hk'
    exact (hkind k).trans (h.tables_kind k hk)
  · exact hitems ▸ h.selection
  · exact hitems ▸ h.sortList
  · intro j hj side
    refine holdsEnd_mono h.housed hhoused (fun k hk _ hitem => ?_) (h.ends j hj side)
    exact ⟨f' k, List.mem_map_of_mem hk, (hf' k).1, (hf' k).2.1.symm ▸ hitem⟩

section

variable {β : Type} {id : ContainerId} (property : Property) (read : Container → β)
  (same : β → β → Bool) (write : β → Container → Container) (show' : β → PropertyValue) (new : β)

/-- Setting a property of a container. -/
theorem setContainerProperty_of_some {k : Container} (hk : q.container? id = some k) :
    setContainerProperty id property read same write show' new q =
      if same (read k) new = true then .silent () q
      else .announced () (q.modifyContainer id (write new))
        (.containerChanged ⟨id, property, show' (read k), show' new⟩) := by
  rw [setContainerProperty, bind_of_silent (needContainer_of_some hk)]
  by_cases hsame : same (read k) new = true
  · rw [if_pos hsame, if_pos hsame]
    rfl
  · rw [if_neg hsame, if_neg hsame, modify_bind, announce_apply rfl]

theorem setContainerProperty_of_none (hid : q.container? id = none) :
    setContainerProperty id property read same write show' new q =
      .refused (.unknownContainer id) q := by
  rw [setContainerProperty]
  exact bind_of_refused (needContainer_of_none hid)

/-- Setting a property beside the items keeps the invariant. -/
theorem Coherent.setContainerProperty (h : q.Coherent)
    (hwrite : ∀ k, (write new k).id = k.id ∧ (write new k).items = k.items ∧
      (write new k).kind = k.kind) :
    (setContainerProperty id property read same write show' new q).query.Coherent := by
  cases hk : q.container? id with
  | none =>
    rw [setContainerProperty_of_none _ _ _ _ _ _ hk]
    exact h
  | some k =>
    rw [setContainerProperty_of_some _ _ _ _ _ _ hk]
    split
    · exact h
    · exact Coherent.noted (h.modifyContainer id hwrite)

end

/-! ### Settings -/

/-- Setting a setting. -/
theorem setSetting_apply {β : Type} [DecidableEq β] (property : Property) (read : Query → β)
    (write : β → Query → Query) (show' : β → PropertyValue) (new : β) (q : Query) :
    setSetting property read write show' new q =
      if read q = new then .silent () q
      else .announced () (write new q)
        (.queryChanged ⟨q.id, property, show' (read q), show' new⟩) := by
  rw [setSetting, get_bind]
  by_cases hsame : read q = new
  · rw [if_pos hsame, if_pos hsame]
    rfl
  · rw [if_neg hsame, if_neg hsame, modify_bind, announce_apply rfl]

/-- Setting a setting ends at the query with the setting, whether it was written or not. -/
theorem setSetting_reaches {β : Type} [DecidableEq β] (property : Property) {read : Query → β}
    {write : β → Query → Query} (show' : β → PropertyValue) (new : β)
    (hsame : write (read q) q = q) :
    Reaches (setSetting property read write show' new) q ()
      ((write new q).notedIf (decide (read q ≠ new))) := by
  rw [Reaches, setSetting_apply]
  by_cases hnew : read q = new
  · rw [if_pos hnew, ← hnew, hsame, decide_eq_false (not_not.mpr rfl), notedIf_false]
    exact ⟨rfl, rfl⟩
  · rw [if_neg hnew, decide_eq_true hnew]
    exact ⟨rfl, rfl⟩

theorem Coherent.setSetting {β : Type} [DecidableEq β] (h : q.Coherent) (property : Property)
    (read : Query → β) {write : β → Query → Query} (show' : β → PropertyValue) {new : β}
    (hwrite : (write new q).Coherent) :
    (setSetting property read write show' new q).query.Coherent := by
  rw [setSetting_apply]
  split
  · exact h
  · exact hwrite.noted

/-- The query may have any filter that is not blank. -/
theorem Coherent.withGlobalWhere (h : q.Coherent) (text : Option String) :
    { q with globalWhere := Text.nonBlank text }.Coherent :=
  h.congr rfl rfl rfl rfl rfl rfl rfl (Text.nonBlank_nonBlank text)

theorem Coherent.withUserOverride (h : q.Coherent) (text : Option String) :
    { q with userOverride := text }.Coherent := h.congr rfl rfl rfl rfl rfl rfl rfl h.globalWhere

theorem Coherent.withGrouping (h : q.Coherent) (on : Bool) : { q with grouping := on }.Coherent :=
  h.congr rfl rfl rfl rfl rfl rfl rfl h.globalWhere

theorem Coherent.withZoom (h : q.Coherent) (zoom : Int32) : { q with zoom }.Coherent :=
  h.congr rfl rfl rfl rfl rfl rfl rfl h.globalWhere

theorem Coherent.clearOverride (h : q.Coherent) : (clearOverride q).query.Coherent :=
  h.setSetting _ _ _ (h.withUserOverride none)

/-- Replacing the statement keeps the invariant. -/
theorem Coherent.defineOverride (h : q.Coherent) (text : String) :
    (defineOverride text q).query.Coherent := by
  rw [Query.defineOverride, get_bind]
  split
  · exact h.clearOverride
  · exact h.setSetting _ _ _ (h.withUserOverride (some text))

/-! ### Compound edits -/

theorem endCompoundEdit_apply (q : Query) :
    endCompoundEdit q =
      if q.compoundDepth = 0 then .refused .unbalancedCompoundEdit q else finishCompoundEdit q := by
  rw [endCompoundEdit, get_bind]
  by_cases hd : q.compoundDepth = 0
  · rw [if_pos hd, if_pos hd]
    exact bind_of_refused (refuse_apply _ q)
  · rw [if_neg hd, if_neg hd]

theorem Coherent.endCompoundEdit (h : q.Coherent) : (endCompoundEdit q).query.Coherent := by
  rw [endCompoundEdit_apply]
  split
  · exact h
  · rw [(finishCompoundEdit_reaches q).2]
    exact h.closed

theorem Coherent.startCompoundEdit (h : q.Coherent) (message : String) :
    (startCompoundEdit message q).query.Coherent := by
  rw [startCompoundEdit_apply]
  exact h.opened message

/-! ### Taking everything out -/

/-- The query with nothing in it. The constants container itself is left, and the settings are. -/
def bare (q : Query) : Query :=
  { q with
    tables := [], tableIds := [], constants := { q.constants with items := [] }, itemIndex := []
    selection := [], sortList := [], joins := .empty }

/-- A query without tables and constants has nothing else in it either. -/
theorem Coherent.eq_bare (h : q.Coherent) (htables : q.tables = [])
    (hconstants : q.constants.items = []) : q = q.bare := by
  have hids : q.tableIds = [] := by rw [← h.mapped, htables, List.map_nil]
  have hnothing : q.items = [] := by
    rw [items, containers, htables, List.flatMap_singleton, hconstants]
  have hindex : q.itemIndex = [] := by
    refine Keyed.eq_nil_of_lookup fun x => h.housed.get?_eq_none_iff.mpr fun hx => ?_
    change x ∈ q.items.map (·.id) at hx
    rw [hnothing] at hx
    exact absurd hx List.not_mem_nil
  have hselection : q.selection = [] := Listing.eq_nil (hnothing ▸ h.selection)
  have hsort : q.sortList = [] := Listing.eq_nil (hnothing ▸ h.sortList)
  -- a join is between tables
  have hjoins : q.joins.joins = [] := by
    refine List.eq_nil_iff_forall_not_mem.mpr fun j hj => ?_
    have hend := h.end_mem_tableIds hj .left
    rw [hids] at hend
    exact absurd hend List.not_mem_nil
  calc
    q = { q with
          tables := q.tables, tableIds := q.tableIds
          constants := { q.constants with items := q.constants.items }
          itemIndex := q.itemIndex, selection := q.selection, sortList := q.sortList
          joins := q.joins } := rfl
    _ = q.bare := by
      rw [htables, hids, hconstants, hindex, hselection, hsort, h.joins.eq_empty hjoins]
      rfl

/-- Each of the tables can be taken out, and nothing but what is in the query changes by that. -/
theorem Coherent.detachTables_reaches (h : q.Coherent) {ids : List ContainerId} (hnd : ids.Nodup)
    (hids : ∀ id ∈ ids, id ∈ q.tableIds) :
    ∃ q' b, Reaches (detachTables ids) q () q' ∧ q'.Coherent ∧ q'.bare = q.bare.notedIf b ∧
      q'.tables = q.tables.filter (·.id ∉ ids) := by
  induction ids generalizing q with
  | nil =>
    have hall : q.tables.filter (·.id ∉ []) = q.tables :=
      List.filter_eq_self.mpr fun _ _ => decide_eq_true List.not_mem_nil
    exact ⟨q, false, ⟨rfl, rfl⟩, h, q.bare.notedIf_false.symm, hall.symm⟩
  | cons id ids ih =>
    rw [List.nodup_cons] at hnd
    obtain ⟨k, hk, rfl⟩ := h.mem_tableIds.mp (hids id List.mem_cons_self)
    have hfirst := h.detachTable_of_mem hk
    -- the attempt succeeds, so the outcome that it would swallow does not occur
    have hattempt : Reaches (attempt (detachTable k.id)) q
        (.ok (k.mapItems fun x => { x with selected := false })) (q.withoutTable k).noted := by
      rw [Reaches, attempt_apply, hfirst.1]
      exact ⟨rfl, hfirst.2⟩
    have hleft : ∀ id ∈ ids, id ∈ (q.withoutTable k).noted.tableIds := fun id hid =>
      mem_tableIds_withoutTable (hids id (List.mem_cons_of_mem _ hid)) fun heq => hnd.1 (heq ▸ hid)
    obtain ⟨q', b, hreach, hcoh, hbare, htables⟩ :=
      ih (h.withoutTable hk).noted hnd.2 hleft
    refine ⟨q', true || b, hattempt.bind hreach, hcoh, ?_, ?_⟩
    · rw [hbare, ← notedIf_notedIf]
      rfl
    · rw [htables]
      change (q.tables.filter (·.id ≠ k.id)).filter (·.id ∉ ids) = _
      rw [List.filter_filter]
      refine List.filter_congr fun k' _ => ?_
      rw [← Bool.decide_and, decide_eq_decide, List.mem_cons, not_or, and_comm]

/-- Each of the constants can be taken out, and no table is added by that. -/
theorem Coherent.detachItems_reaches (h : q.Coherent) (htables : q.tables = [])
    {ids : List ItemId} (hnd : ids.Nodup) (hids : ∀ id ∈ ids, id ∈ q.items.map (·.id)) :
    ∃ q' b, Reaches (detachItems ids) q () q' ∧ q'.Coherent ∧ q'.bare = q.bare.notedIf b ∧
      q'.tables = [] ∧ q'.constants = q.constants.filterItems (·.id ∉ ids) := by
  induction ids generalizing q with
  | nil =>
    have hall : q.constants.filterItems (·.id ∉ []) = q.constants :=
      Container.filterItems_eq_self fun _ _ => decide_eq_true List.not_mem_nil
    exact ⟨q, false, ⟨rfl, rfl⟩, h, q.bare.notedIf_false.symm, htables, hall.symm⟩
  | cons id ids ih =>
    rw [List.nodup_cons] at hnd
    obtain ⟨x, hx, rfl⟩ := List.mem_map.mp (hids id List.mem_cons_self)
    have htables' : (q.withoutItem x.id).noted.tables = [] := by
      change q.tables.map _ = []
      rw [htables]
      rfl
    -- the others are still there
    have hleft : ∀ id ∈ ids, id ∈ (q.withoutItem x.id).noted.items.map (·.id) := by
      intro id hid
      obtain ⟨y, hy, rfl⟩ := List.mem_map.mp (hids id (List.mem_cons_of_mem _ hid))
      change y.id ∈ (q.filterItems (·.id ≠ x.id)).items.map (·.id)
      rw [items_filterItems]
      refine List.mem_map_of_mem (List.mem_filter.mpr ⟨hy, decide_eq_true fun heq => ?_⟩)
      exact hnd.1 (heq ▸ hid)
    obtain ⟨q', b, hreach, hcoh, hbare, hnone, hconstants⟩ :=
      ih (h.withoutItem x.id).noted htables' hnd.2 hleft
    refine ⟨q', true || b, (h.detachItem_of_mem hx).bind hreach, hcoh, ?_, hnone, ?_⟩
    · rw [hbare, ← notedIf_notedIf]
      rfl
    · rw [hconstants]
      change (q.constants.filterItems (·.id ≠ x.id)).filterItems (·.id ∉ ids) = _
      refine congrArg (fun items => { q.constants with items }) ?_
      rw [Container.filterItems, List.filter_filter]
      refine List.filter_congr fun y _ => ?_
      rw [← Bool.decide_and, decide_eq_decide, List.mem_cons, not_or, and_comm]

theorem Coherent.detachAllTables_reaches (h : q.Coherent) :
    ∃ q' b, Reaches (detachTables q.tableIds) q () q' ∧ q'.Coherent ∧
      q'.bare = q.bare.notedIf b ∧ q'.tables = [] := by
  obtain ⟨q', b, hreach, hcoh, hbare, htables⟩ :=
    h.detachTables_reaches h.tableIds_nodup fun _ hid => hid
  refine ⟨q', b, hreach, hcoh, hbare, ?_⟩
  rw [htables, List.filter_eq_nil_iff]
  intro k hk
  rw [decide_eq_true_iff, not_not]
  exact h.id_mem_tableIds hk

/-- Without tables, nothing is left once the constants are taken out. -/
theorem Coherent.detachConstants_reaches (h : q.Coherent) (htables : q.tables = []) :
    ∃ b, Reaches (detachItems (q.constants.items.map (·.id))) q () (q.bare.notedIf b) ∧
      (q.bare.notedIf b).Coherent := by
  have hitems : ∀ id ∈ q.constants.items.map (·.id), id ∈ q.items.map (·.id) := fun id hid =>
    mem_itemIds.mpr ⟨q.constants, List.mem_cons_self, hid⟩
  obtain ⟨q', b, hreach, hcoh, hbare, hnone, hconstants⟩ :=
    h.detachItems_reaches htables (h.housed.nodup_of_mem List.mem_cons_self) hitems
  -- every constant was on the list of those to detach
  have hempty : q'.constants.items = [] := by
    rw [hconstants, Container.filterItems, List.filter_eq_nil_iff]
    intro x hx
    rw [decide_eq_true_iff, not_not]
    exact List.mem_map_of_mem hx
  have hq' : q' = q.bare.notedIf b := (hcoh.eq_bare hnone hempty).trans hbare
  exact ⟨b, hq' ▸ hreach, hq' ▸ hcoh⟩

/-! ### Resetting -/

/-- Entering items lists them in the index. -/
theorem enterItems_reaches (c : ContainerId) (ids : List ItemId) (q : Query) :
    Reaches (enterItems c ids) q ()
      ({ q with itemIndex := ids.foldl (fun index x => index.set x c) q.itemIndex }.notedIf
        (!ids.isEmpty)) := by
  induction ids generalizing q with
  | nil => exact ⟨rfl, q.notedIf_false.symm⟩
  | cons id ids ih =>
    -- the builtins are told one by one, so an item is indexed before its own event only
    have hrest : Reaches (enterItems c ids) { q with itemIndex := q.itemIndex.set id c }.noted ()
        ({ q with
          itemIndex := (id :: ids).foldl (fun index x => index.set x c) q.itemIndex }.notedIf
          (true || !ids.isEmpty)) := by
      rw [← notedIf_notedIf]
      exact ih _
    exact (Reaches.modify _ q).bind ((Reaches.announce rfl _).bind hrest)

/-- The query with the built-in constants as its only ones. -/
def withBuiltins (ids : BuiltinIds) (q : Query) : Query :=
  { q with
    constants := { q.constants with items := Container.builtins ids }.adopt
    itemIndex := ids.toList.foldl (fun index x => index.set x q.constants.id) q.itemIndex }

/-- With the built-in constants as all that is in it, a query has the invariant. -/
theorem Coherent.withBuiltins (h : q.Coherent) {ids : BuiltinIds} (hids : ids.toList.Nodup) :
    (q.bare.withBuiltins ids).Coherent := by
  let k := { q.constants with items := Container.builtins ids }
  have hnew : (onConstants q.id q.name k.adopt).Coherent :=
    coherent_onConstants _ _ h.constants_kind rfl hids
  exact hnew.congr rfl rfl rfl rfl rfl rfl rfl h.globalWhere

/-- **Restoring the constants** ends with the built-in ones, if there are no tables. -/
theorem Coherent.resetConstants_reaches (h : q.Coherent) (htables : q.tables = [])
    (ids : BuiltinIds) : Reaches (resetConstants ids) q () (q.bare.withBuiltins ids).noted := by
  obtain ⟨b, hreach, -⟩ := h.detachConstants_reaches htables
  let q₁ := q.bare.notedIf b
  have hmark : (q₁.withBuiltins ids).noted = (q.bare.withBuiltins ids).noted :=
    noted_notedIf b (q.bare.withBuiltins ids)
  rw [← hmark]
  refine (Reaches.get q).bind (hreach.bind ?_)
  refine (Reaches.modify _ q₁).bind ((Reaches.get _).bind ?_)
  exact enterItems_reaches q₁.constants.id ids.toList _

/-- The settings that a reset clears. -/
def clearSettings : Change Unit := do
  setGlobalWhere none
  setGrouping false
  clearOverride
  setZoom 0

/-- The query without the settings that a reset clears. -/
def unset (q : Query) : Query :=
  { q with globalWhere := none, grouping := false, userOverride := none, zoom := 0 }

theorem clearSettings_reaches (q : Query) :
    ∃ b, Reaches clearSettings q () (q.unset.notedIf b) := by
  refine ⟨decide (q.globalWhere ≠ none) || decide (q.grouping ≠ false) ||
    decide (q.userOverride ≠ none) || decide (q.zoom ≠ 0), ?_⟩
  rw [← notedIf_notedIf, ← notedIf_notedIf, ← notedIf_notedIf]
  exact (setSetting_reaches _ _ _ rfl).bind <| (setSetting_reaches _ _ _ rfl).bind <|
    (setSetting_reaches _ _ _ rfl).bind <| setSetting_reaches _ _ _ rfl

/-- What a reset does within its compound edit. -/
def startOver (ids : BuiltinIds) : Change Unit := do
  detachTables (← get).tableIds
  let _ ← attempt (resetConstants ids)
  clearSettings

theorem reset_eq (ids : BuiltinIds) :
    reset ids = asCompoundEdit "Resetting query" (startOver ids) := rfl

/-- The query that is started over: the built-in constants are all that it holds, and the settings
that shape the statement are cleared. -/
def blank (ids : BuiltinIds) (q : Query) : Query := (q.bare.withBuiltins ids).unset

theorem Coherent.blank (h : q.Coherent) {ids : BuiltinIds} (hids : ids.toList.Nodup) :
    (q.blank ids).Coherent := (h.withBuiltins hids).congr rfl rfl rfl rfl rfl rfl rfl rfl

/-- **Starting over** leaves nothing of what was in the query. -/
theorem Coherent.startOver_reaches (h : q.Coherent) (ids : BuiltinIds) :
    Reaches (startOver ids) q () (q.blank ids).noted := by
  obtain ⟨q₁, b₁, htables, h₁, hbare, hnone⟩ := h.detachAllTables_reaches
  have hconstants := h₁.resetConstants_reaches hnone ids
  -- the earlier marks do not matter any more
  have hmark : (q₁.bare.withBuiltins ids).noted = (q.bare.withBuiltins ids).noted := by
    rw [hbare]
    exact noted_notedIf b₁ (q.bare.withBuiltins ids)
  rw [hmark] at hconstants
  have hattempt : Reaches (attempt (resetConstants ids)) q₁ (.ok ())
      (q.bare.withBuiltins ids).noted := by
    rw [Reaches, attempt_apply, hconstants.1]
    exact ⟨rfl, hconstants.2⟩
  obtain ⟨b₂, hsettings⟩ := clearSettings_reaches (q.bare.withBuiltins ids).noted
  have hlast : (q.bare.withBuiltins ids).noted.unset.notedIf b₂ = (q.blank ids).noted :=
    notedIf_notedIf true b₂ (q.blank ids)
  rw [hlast] at hsettings
  exact (Reaches.get q).bind (htables.bind (hattempt.bind hsettings))

/-- **Resetting** is starting over, whatever there was. -/
theorem Coherent.reset_blank (h : q.Coherent) (ids : BuiltinIds) :
    Reaches (reset ids) q () ((q.opened "Resetting query").blank ids).noted.closed :=
  asCompoundEdit_reaches ((h.opened _).startOver_reaches ids)

theorem Coherent.reset_reaches (h : q.Coherent) {ids : BuiltinIds} (hids : ids.toList.Nodup) :
    ∃ q', Reaches (reset ids) q () q' ∧ q'.Coherent :=
  ⟨_, h.reset_blank ids, ((h.opened _).blank hids).noted.closed⟩

end Query

end VisualQuery
