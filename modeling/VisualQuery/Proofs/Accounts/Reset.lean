import VisualQuery.Proofs.Accounts.Cascades

/-!
# Resetting is accounted for

A reset takes the tables out and then the constants. The query that is left has no items
(`Query.Resets`). The built-in constants are put into it all at once, and then they are listed in
the index and announced one by one (`Query.enterItems`). Behind that the settings are cleared.

Before and behind the built-in constants each announcement finds a query with the invariant. While
they are announced it does not hold, since the index does not list all of them yet. The events
account for the values all the same: a constant that is not listed is not found, and so it has no
value before it is announced (`Query.recounts_enterItems`).
-/

namespace VisualQuery.Query

open Change

variable {e : Edit} {start q : Query} {c : ContainerId}

/-! ### Entering items -/

/-- The query with an item listed in the index. -/
def withEntry (c : ContainerId) (id : ItemId) (q : Query) : Query :=
  { q with itemIndex := q.itemIndex.set id c }

theorem enterItems_cons (c : ContainerId) (id : ItemId) (ids : List ItemId) (q : Query) :
    enterItems c (id :: ids) q =
      ⟨(enterItems c ids (q.withEntry c id).noted).result,
        (enterItems c ids (q.withEntry c id).noted).query,
        ⟨.itemAdded c id, (q.withEntry c id).noted⟩ ::
          (enterItems c ids (q.withEntry c id).noted).log⟩ := by
  rw [enterItems, modify_bind, bind_of_ok (announce_apply rfl _)]
  rfl

theorem enterItems_events (c : ContainerId) (ids : List ItemId) (q : Query) :
    (enterItems c ids q).log.map (·.event) = ids.map (.itemAdded c) := by
  induction ids generalizing q with
  | nil => rfl
  | cons id ids ih => rw [enterItems_cons, List.map_cons, ih, List.map_cons]

/-- A constant that is entered was not found before it, and is found behind it. -/
theorem tells_enter {ids : BuiltinIds}
    (hitems : ∀ id p, (q.constants.item? id).bind (·.value? p) =
      ((Container.builtins ids).find? (·.id = id)).bind (·.value? p)) (id : ItemId) :
    Tells (.reset ids) start q (.itemAdded q.constants.id id)
      (q.withEntry q.constants.id id).noted := by
  have hindex := ItemIndex.get?_set q.itemIndex id q.constants.id
  refine .of_addition rfl rfl rfl fun t p v hv => ?_
  cases t with
  | query => exact .inr ⟨fun hadds => hadds, hv⟩
  | container | join => exact .inr ⟨by simp [Edit.adds], hv⟩
  | item x =>
    change ((((q.itemIndex.set id q.constants.id).get? x).bind q.container?).bind
      (·.item? x)).bind (·.value? p) = some v at hv
    rw [hindex] at hv
    by_cases hx : x = id
    · -- the item is found in the constants container from now on
      subst hx
      refine .inl ⟨.inl ⟨_, rfl⟩, ?_⟩
      have hself : q.container? q.constants.id = some q.constants := if_pos rfl
      rw [if_pos rfl, Option.bind_some, hself, Option.bind_some, hitems] at hv
      exact hv
    · rw [if_neg hx] at hv
      refine .inr ⟨?_, hv⟩
      rintro (⟨c, hc⟩ | ⟨⟨c, hc⟩, -⟩)
      · exact hx (Event.itemAdded.inj hc).2.symm
      · exact absurd hc (by simp)

theorem recounts_enterItems {ids : BuiltinIds}
    (hitems : ∀ id p, (q.constants.item? id).bind (·.value? p) =
      ((Container.builtins ids).find? (·.id = id)).bind (·.value? p)) (entered : List ItemId) :
    Recounts (.reset ids) start q ((enterItems q.constants.id entered q).log.map (·.event))
      (enterItems q.constants.id entered q).query := by
  induction entered generalizing q with
  | nil => exact .nil rfl
  | cons id entered ih =>
    rw [enterItems_cons, List.map_cons]
    exact .cons (tells_enter hitems id) (ih (q := (q.withEntry q.constants.id id).noted) hitems)

/-! ### The constants -/

/-- The query with the built-in constants in its constants container, none of them listed. -/
def restored (ids : BuiltinIds) (q : Query) : Query :=
  { q with constants := { q.constants with items := Container.builtins ids }.adopt }

/-- A constant that is found is one of the built-in ones, with the values of it. -/
theorem value?_restored (ids : BuiltinIds) (q : Query) (id : ItemId) (p : Property) :
    ((q.restored ids).constants.item? id).bind (·.value? p) =
      ((Container.builtins ids).find? (·.id = id)).bind (·.value? p) := by
  have hfind : (q.restored ids).constants.item? id =
      ((Container.builtins ids).find? (·.id = id)).map fun x =>
        { x with parent := some q.constants.id } := List.find?_map
  rw [hfind]
  cases (Container.builtins ids).find? (·.id = id) with
  | none => rfl
  | some x => rfl

/-- As long as no item is listed, nobody sees that the constants are back. -/
theorem account_restored (ids : BuiltinIds) (hlisted : ∀ x, q.itemIndex.get? x = none) :
    (q.restored ids).account = q.account := by
  refine account_eq_iff.mpr ⟨rfl, rfl, ?_⟩
  funext t p
  -- only items could tell the difference, and no item is listed at this point
  cases t with
  | query | join => rfl
  | container c =>
    change ((if c = q.constants.id then some (q.restored ids).constants else q.table? c)).bind
        (·.value? p) =
      ((if c = q.constants.id then some q.constants else q.table? c)).bind (·.value? p)
    split <;> rfl
  | item x =>
    change (((q.itemIndex.get? x).bind (q.restored ids).container?).bind (·.item? x)).bind _ =
      (((q.itemIndex.get? x).bind q.container?).bind (·.item? x)).bind _
    rw [hlisted x]
    rfl

/-! ### The whole reset -/

/-- **How a reset goes.** Everything is taken out, the built-in constants are entered, and the
settings are cleared. What is announced before and behind the constants finds a query with the
invariant. -/
structure Resets (e : Edit) (start q : Query) (ids : BuiltinIds) (emptied : Query)
    (before after : List Announcement) : Prop where
  /-- The three parts of the log. -/
  log : (reset ids q).log = before ++
    (enterItems emptied.constants.id ids.toList (emptied.restored ids)).log ++ after
  /-- The query has the invariant when everything is taken out. -/
  coherent : emptied.Coherent
  /-- There are no tables then. -/
  tables : emptied.tables = []
  /-- There are no constants then. -/
  constants : emptied.constants.items = []
  /-- The first part accounts for what is taken out. -/
  recounts_before : Recounts e start q (before.map (·.event)) emptied
  /-- The last part accounts for the settings. -/
  recounts_after : Recounts e start
    (enterItems emptied.constants.id ids.toList (emptied.restored ids)).query
    (after.map (·.event)) (reset ids q).query
  /-- Announcements of the first part. -/
  sound_before : ∀ a ∈ before, a.query.Coherent
  /-- Announcements of the last part. -/
  sound_after : ∀ a ∈ after, a.query.Coherent

theorem Coherent.accounted_clearSettings (h : q.Coherent) :
    Accounted e start q (clearSettings q) := by
  refine (h.accounted_setGlobalWhere none).bind fun _ _ _ h₁ => ?_
  refine (h₁.accounted_setGrouping false).bind fun _ _ _ h₂ => ?_
  exact (h₂.accounted_setOverride none).bind fun _ _ _ h₃ => h₃.accounted_setZoom 0

/-- The log of restoring the constants, once it is known where taking them out ends. -/
theorem resetConstants_apply (ids : BuiltinIds) {q₂ : Query}
    (hreach : Reaches (detachItems (q.constants.items.map (·.id))) q () q₂) :
    resetConstants ids q =
      ⟨.ok (), (enterItems q₂.constants.id ids.toList (q₂.restored ids)).query,
        (detachItems (q.constants.items.map (·.id)) q).log ++
          (enterItems q₂.constants.id ids.toList (q₂.restored ids)).log⟩ := by
  -- what is behind the loop of removals is written and entered at once
  have htail : (do
      modify fun q =>
        { q with constants := { q.constants with items := Container.builtins ids }.adopt }
      enterItems (← get).constants.id ids.toList : Change Unit) q₂ =
      enterItems q₂.constants.id ids.toList (q₂.restored ids) := by
    rw [modify_bind, get_bind]
    rfl
  rw [resetConstants, get_bind, bind_of_reaches hreach, htail, (enterItems_reaches _ _ _).1]

/-- The log of a reset, once it is known where taking everything out ends. -/
theorem reset_apply (ids : BuiltinIds) {q₀ q₁ q₂ : Query} (hq : q.opened "Resetting query" = q₀)
    (hreach₁ : Reaches (detachTables q₀.tableIds) q₀ () q₁)
    (hreach₂ : Reaches (detachItems (q₁.constants.items.map (·.id))) q₁ () q₂)
    {block : Outcome Unit}
    (hblock : enterItems q₂.constants.id ids.toList (q₂.restored ids) = block) :
    reset ids q = ⟨(clearSettings block.query).result, (clearSettings block.query).query.closed,
      q.opening "Resetting query" ++
        ((detachTables q₀.tableIds q₀).log ++
          (((detachItems (q₁.constants.items.map (·.id)) q₁).log ++ block.log) ++
            (clearSettings block.query).log) ++ (clearSettings block.query).query.closing)⟩ := by
  -- the attempt succeeds, so the log goes on behind it
  have hattempt : attempt (resetConstants ids) q₁ = ⟨.ok (.ok ()), block.query,
      (detachItems (q₁.constants.items.map (·.id)) q₁).log ++ block.log⟩ := by
    rw [attempt_apply, resetConstants_apply ids hreach₂, hblock]
  rw [reset_eq, asCompoundEdit_apply, hq, startOver, get_bind, bind_of_reaches hreach₁,
    bind_of_ok hattempt]

variable (e start) in
theorem Coherent.resets (h : q.Coherent) {ids : BuiltinIds} (hids : ids.toList.Nodup) :
    ∃ emptied before after, Resets e start q ids emptied before after := by
  let q₀ := q.opened "Resetting query"
  have h₀ : q₀.Coherent := h.opened _
  obtain ⟨q₁, -, hreach₁, h₁, -, hnone⟩ := h₀.detachAllTables_reaches
  obtain ⟨b, hreach₂, h₂⟩ := h₁.detachConstants_reaches hnone
  let q₂ := q₁.bare.notedIf b
  let constants := q₁.constants.items.map (·.id)
  let block := enterItems q₂.constants.id ids.toList (q₂.restored ids)
  have h₃ : block.query.Coherent := by
    change (enterItems _ _ _).query.Coherent
    rw [(enterItems_reaches _ _ _).2]
    exact (h₂.withBuiltins hids).notedIf _
  let rest := clearSettings block.query
  have hreset := reset_apply (q := q) ids rfl hreach₁ hreach₂ rfl
  -- the cascades before the constants, and the settings behind them, account for themselves
  have htaken : Accounted e start q₀ (detachTables q₀.tableIds q₀) := h₀.accounted_detachTables _
  have hremoved : Accounted e start q₁ (detachItems constants q₁) := h₁.accounted_detachItems _
  have hrest : Accounted e start block.query rest := h₃.accounted_clearSettings
  refine ⟨q₂, q.opening "Resetting query" ++
    ((detachTables q₀.tableIds q₀).log ++ (detachItems constants q₁).log),
    rest.log ++ rest.query.closing, ?_, h₂, rfl, rfl, ?_, ?_, ?_, ?_⟩
  · rw [hreset]
    simp only [List.append_assoc]
    rfl
  · rw [List.map_append, List.map_append]
    refine (recounts_opening _ q).append (Recounts.append ?_ (hreach₂.2 ▸ hremoved.recounts))
    exact hreach₁.2 ▸ htaken.recounts
  · rw [hreset, List.map_append]
    exact hrest.recounts.append (recounts_closing _)
  · intro a ha
    rcases List.mem_append.mp ha with ha | ha
    · exact h.sound_opening _ a ha
    · rcases List.mem_append.mp ha with ha | ha
      · exact htaken.sound a ha
      · exact hremoved.sound a ha
  · intro a ha
    rcases List.mem_append.mp ha with ha | ha
    · exact hrest.sound a ha
    · exact hrest.reached.sound_closing a ha

/-- **A reset is accounted for.** -/
theorem Coherent.recounts_reset (h : q.Coherent) {ids : BuiltinIds} (hids : ids.toList.Nodup) :
    Recounts (.reset ids) start q ((reset ids q).log.map (·.event)) (reset ids q).query := by
  obtain ⟨emptied, before, after, hreset⟩ := h.resets (.reset ids) start hids
  -- there is no item left, so the index lists none
  have hlisted : ∀ x, emptied.itemIndex.get? x = none := by
    intro x
    refine hreset.coherent.get?_itemIndex_eq_none fun hx => ?_
    rw [items, containers, hreset.tables, List.flatMap_singleton, hreset.constants] at hx
    exact absurd hx List.not_mem_nil
  rw [hreset.log, List.map_append, List.map_append]
  refine (hreset.recounts_before.append ?_).append hreset.recounts_after
  exact (recounts_enterItems (value?_restored ids emptied) ids.toList).congr
    (account_restored ids hlisted).symm

end VisualQuery.Query
