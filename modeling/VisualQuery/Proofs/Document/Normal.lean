import VisualQuery.Proofs.Document.Load
import VisualQuery.Proofs.JoinRegistry.Built

/-!
# What loading makes of a document

A document may come from anywhere, and parts of it that a query keeps in step may be out of step in
it. Loading does not refuse such a document but rewrites it. `Document.normal` says in closed form
what becomes of it:

* the `selected` flags of the items follow the selection, and the items know their containers;
* the outer flag at each end of a join becomes that of the first listed join which touches the
  container of the end;
* a blank filter is dropped.

Everything else stays. The joins are the only part where this is not plain from the code. They are
registered one after the other, and each gives way to the flags that the registry has at that
moment, which may have been forced themselves. What breaks the chain is that the flag of a container
never changes once it has one (`JoinRegistry.flagAt_foldl_extend`), so it is the flag that the first
join brought along.

A document in normal form passes the checks if the original one does (`Document.Passes.normal`), and
its normal form is itself (`Document.Passes.normal_normal`). Hence loading a second time changes
nothing any more (`Document.load_normalises`).
-/

namespace VisualQuery

/-! ### Registering joins that disagree -/

/-- The outer flag of a container at the first of some joins that touches it. -/
def firstOuter? (js : List Join) (c : ContainerId) : Option Bool :=
  (js.find? (·.touches c)).bind fun j => (j.sideOf? c).map fun side => (j.atSide side).outer

/-- A join with the outer flags that its containers have at the first joins of a list. -/
def Join.evened (js : List Join) (j : Join) : Join :=
  { j with
    left := { j.left with outer := (firstOuter? js j.left.container).getD j.left.outer }
    right := { j.right with outer := (firstOuter? js j.right.container).getD j.right.outer } }

namespace JoinRegistry

variable {js : List Join}

theorem flagAt_foldl_extend (js : List Join) (r : JoinRegistry) (c : ContainerId) :
    (js.foldl .extend r).flagAt c = (r.flagAt c).or (firstOuter? js c) := by
  induction js generalizing r with
  | nil => exact Option.or_none.symm
  | cons j js ih =>
    have htouches : j.touches c = (j.sideOf? c).isSome := rfl
    rw [List.foldl_cons, ih, flagAt_extend]
    unfold firstOuter?
    rw [List.find?_cons, htouches]
    cases hside : j.sideOf? c with
    | none => rfl
    | some side =>
      -- the join settles the flag, if it was not settled before
      rw [Option.some_or]
      dsimp only [Option.isSome_some, Option.bind_some]
      rw [hside, Option.map_some]
      cases r.flagAt c <;> rfl

/-- The flags that a join is registered with are those that its containers keep. -/
theorem forced_foldl_extend (r : JoinRegistry) {j : Join} (js : List Join)
    (hj : j.left.container ≠ j.right.container) :
    (js.foldl .extend (r.extend j)).forced j = r.forced j := by
  have hleft : j.sideOf? j.left.container = some .left := if_pos rfl
  have hright : j.sideOf? j.right.container = some .right :=
    (if_neg hj).trans (if_pos rfl)
  unfold forced
  rw [flagAt_foldl_extend, flagAt_foldl_extend, flagAt_extend, flagAt_extend, hleft, hright]
  rfl

theorem joins_foldl_extend (r : JoinRegistry)
    (hjs : ∀ j ∈ js, j.left.container ≠ j.right.container) :
    (js.foldl .extend r).joins = r.joins ++ js.map (js.foldl .extend r).forced := by
  induction js generalizing r with
  | nil => exact (List.append_nil _).symm
  | cons j js ih =>
    rw [List.forall_mem_cons] at hjs
    rw [List.foldl_cons, ih (r.extend j) hjs.2, List.map_cons, r.forced_foldl_extend js hjs.1]
    exact List.append_assoc r.joins [r.forced j] _

/-- **Joins are registered with the flags of the first ones at their containers.** -/
theorem joins_registered (hjs : ∀ j ∈ js, j.left.container ≠ j.right.container) :
    (js.foldl .extend empty).joins = js.map (Join.evened js) := by
  rw [empty.joins_foldl_extend hjs]
  refine List.map_congr_left fun j _ => ?_
  unfold forced Join.evened
  rw [flagAt_foldl_extend, flagAt_foldl_extend]
  rfl

end JoinRegistry

namespace Document

variable {d : Document}

/-! ### The normal form -/

/-- The container with the items as a loaded query has them. -/
def normalContainer (d : Document) (k : Container) : Container :=
  { k with
    items := k.items.map fun x =>
      { x with selected := decide (x.id ∈ d.selectedItems), parent := some k.id } }

/-- **The document that loading makes of a document.** -/
def normal (d : Document) : Document :=
  { d with
    constants := d.normalContainer d.constants
    tables := d.tables.map d.normalContainer
    joins := d.joins.map (Join.evened d.joins)
    globalWhere := Text.nonBlank d.globalWhere }

theorem flagSelected_adopt (d : Document) (k : Container) :
    flagSelected d.selectedItems k.adopt = d.normalContainer k := by
  unfold flagSelected Container.adopt normalContainer
  rw [List.map_map]
  rfl

theorem adopt_normalContainer (d : Document) (k : Container) :
    (d.normalContainer k).adopt = d.normalContainer k :=
  Container.adopt_eq_self fun x hx => by
    obtain ⟨y, -, rfl⟩ := List.mem_map.mp hx
    rfl

/-- What is saved of a loaded query. -/
theorem Passes.ofQuery_loaded (h : d.Passes) :
    ofQuery (d.loaded (d.joins.foldl .extend .empty)) = d.normal := by
  have htables : (d.tables.map Container.adopt).map (flagSelected d.selectedItems) =
      d.tables.map d.normalContainer := by
    rw [List.map_map]
    exact List.map_congr_left fun k _ => d.flagSelected_adopt k
  unfold normal
  rw [h.listed_loaded.ofQuery_eq, ← JoinRegistry.joins_registered h.apart, ← htables,
    ← d.flagSelected_adopt]
  rfl

theorem enter_normalContainer (d : Document) (index : ItemIndex) (k : Container) :
    index.enter (d.normalContainer k) = index.enter k.adopt := by
  unfold ItemIndex.enter normalContainer Container.adopt
  rw [List.foldl_map, List.foldl_map]

/-- Loading the normal form builds the same containers with their flags set, and the same index. -/
theorem bare_normal (d : Document) :
    d.normal.bare = d.bare.mapContainers (flagSelected d.selectedItems) := by
  have hconstants : d.normal.bare.constants = flagSelected d.selectedItems d.bare.constants :=
    (d.adopt_normalContainer d.constants).trans (d.flagSelected_adopt d.constants).symm
  have htables : d.normal.bare.tables = d.bare.tables.map (flagSelected d.selectedItems) := by
    show (d.tables.map d.normalContainer).map Container.adopt =
      (d.tables.map Container.adopt).map (flagSelected d.selectedItems)
    rw [List.map_map, List.map_map]
    exact List.map_congr_left fun k _ =>
      (d.adopt_normalContainer k).trans (d.flagSelected_adopt k).symm
  -- flags and parents are all that changes, and neither identifiers nor index read them
  have htableIds : d.normal.bare.tableIds = d.bare.tableIds := by
    show (d.tables.map d.normalContainer).map (·.id) = d.tables.map (·.id)
    rw [List.map_map]
    rfl
  have hindex : d.normal.bare.itemIndex = d.bare.itemIndex := by
    show ((d.tables.map d.normalContainer).map Container.adopt).foldl ItemIndex.enter
        (ItemIndex.enter [] (d.normalContainer d.constants).adopt) =
      (d.tables.map Container.adopt).foldl ItemIndex.enter (ItemIndex.enter [] d.constants.adopt)
    rw [d.adopt_normalContainer, d.enter_normalContainer, List.foldl_map, List.foldl_map,
      List.foldl_map]
    simp only [d.adopt_normalContainer, d.enter_normalContainer]
  unfold Query.mapContainers
  rw [← hconstants, ← htables, ← htableIds, ← hindex]
  rfl

/-! ### Loading the normal form -/

/-- **A document that passes the checks passes them in normal form.** -/
theorem Passes.normal (h : d.Passes) : d.normal.Passes where
  constants_kind := h.constants_kind
  tables_kind := by
    intro k' hk'
    obtain ⟨k, hk, rfl⟩ := List.mem_map.mp hk'
    exact h.tables_kind k hk
  tables_nodup := by
    show ((d.tables.map d.normalContainer).map (·.id)).Nodup
    rw [List.map_map]
    exact h.tables_nodup
  items_nodup := by
    have hids : d.normal.items.map (·.id) = d.items.map (·.id) := by
      rw [← itemIds_bare, bare_normal, ← itemIds_loaded (r := .empty)]
      rfl
    rw [hids]
    exact h.items_nodup
  ends := by
    intro j' hj' side
    obtain ⟨j, hj, rfl⟩ := List.mem_map.mp hj'
    rw [bare_normal, ← h.ends j hj side, ← holdsEnd_loaded (r := .empty)]
    -- only the flag of the end may differ
    cases side <;> rfl
  apart := by
    intro j' hj'
    obtain ⟨j, hj, rfl⟩ := List.mem_map.mp hj'
    exact h.apart j hj
  joins_nodup := by
    show ((d.joins.map (Join.evened d.joins)).map (·.id)).Nodup
    rw [List.map_map]
    exact h.joins_nodup
  selected := by
    intro x hx
    obtain ⟨item, hitem⟩ := h.selected x hx
    refine ⟨d.flagged item, ?_⟩
    rw [bare_normal]
    exact (item?_loaded (r := .empty) x).trans (by rw [hitem, Option.map_some])
  selected_nodup := h.selected_nodup
  sorted := by
    intro x hx
    obtain ⟨item, hitem, hselected, hordered⟩ := h.sorted x hx
    refine ⟨d.flagged item, ?_, hselected, hordered⟩
    rw [bare_normal]
    exact (item?_loaded (r := .empty) x).trans (by rw [hitem, Option.map_some])
  sorted_nodup := h.sorted_nodup

/-- **The normal form is its own normal form.** -/
theorem Passes.normal_normal (h : d.Passes) : d.normal.normal = d.normal := by
  have hcontainer : ∀ k, d.normal.normalContainer (d.normalContainer k) = d.normalContainer k := by
    intro k
    unfold normalContainer
    rw [List.map_map]
    rfl
  have htables : (d.tables.map d.normalContainer).map d.normal.normalContainer =
      d.tables.map d.normalContainer := by
    rw [List.map_map]
    exact List.map_congr_left fun k _ => hcontainer k
  -- the registered joins agree at every container, so registering them again changes none
  have hjoins : (d.joins.map (Join.evened d.joins)).map
      (Join.evened (d.joins.map (Join.evened d.joins))) = d.joins.map (Join.evened d.joins) :=
    calc _ = ((d.joins.map (Join.evened d.joins)).foldl .extend JoinRegistry.empty).joins :=
          (JoinRegistry.joins_registered h.normal.apart).symm
      _ = d.joins.map (Join.evened d.joins) := by
          rw [← JoinRegistry.joins_registered h.apart]
          exact h.joins_loaded.joins_foldl_extend .empty rfl
  have hfilter : Text.nonBlank (Text.nonBlank d.globalWhere) = Text.nonBlank d.globalWhere :=
    Text.nonBlank_nonBlank d.globalWhere
  calc d.normal.normal
      = { d with
          constants := d.normal.normalContainer (d.normalContainer d.constants)
          tables := (d.tables.map d.normalContainer).map d.normal.normalContainer
          joins := (d.joins.map (Join.evened d.joins)).map
            (Join.evened (d.joins.map (Join.evened d.joins)))
          globalWhere := Text.nonBlank (Text.nonBlank d.globalWhere) } := rfl
    _ = d.normal := by
        rw [hcontainer, htables, hjoins, hfilter]
        rfl

/-- What is made of an accepted document. -/
theorem Passes.load_eq (h : d.Passes) (supply : IdSupply) :
    ∃ q, (d.load .preserve).run supply = (.ok q, supply) ∧ ofQuery q = d.normal ∧
      q.isConsistent = true := by
  refine ⟨_, ?_, h.ofQuery_loaded, h.isConsistent_loaded⟩
  rw [load_preserve, toQuery_eq_ok_iff.mpr ⟨h, rfl⟩]

/-- **Loading normalises, once and for all.** For every document that is accepted under its
identities, the loaded query is consistent, and it is saved as the normal form of the document:
that differs from the document at most in the `selected` flags and the parents of the items, in the
outer flags of the joins, and in a blank filter, which is dropped. The normal form is accepted, too;
the query that is loaded from it is consistent again, and it is saved as the normal form itself. -/
theorem load_normalises {q : Query} {supply supply' : IdSupply}
    (hload : (d.load .preserve).run supply = (.ok q, supply')) :
    q.isConsistent = true ∧ ofQuery q = d.normal ∧
      ∃ q', (d.normal.load .preserve).run supply' = (.ok q', supply') ∧
        ofQuery q' = d.normal ∧ q'.isConsistent = true := by
  rw [load_preserve] at hload
  obtain ⟨h, rfl⟩ := toQuery_eq_ok_iff.mp (Prod.mk.inj hload).1
  refine ⟨h.isConsistent_loaded, h.ofQuery_loaded, ?_⟩
  obtain ⟨q', hq', hsaved, hconsistent⟩ := h.normal.load_eq supply'
  exact ⟨q', hq', hsaved.trans h.normal_normal, hconsistent⟩

/-- A document for samples with everything out of step: an item is selected without its flag and
another one has the flag without being selected, two of the three joins have an end that disagrees
with the first join there, and the filter is blank. -/
def untidy : Document :=
  { sample 7 [⟨.ofNat 7⟩] [⟨.ofNat 7⟩] with
    tables := (sample 7 [] []).tables ++
      [{ Container.table ⟨.ofNat 8⟩ "customers" with
          items := [{ Item.column ⟨.ofNat 8⟩ "number" with selected := true }] },
        { Container.table ⟨.ofNat 9⟩ "regions" with items := [Item.column ⟨.ofNat 9⟩ "code"] }]
    joins := [(Join.sample 31 7 8).setOuter .left true, (Join.sample 32 8 9).setOuter .left true,
      Join.sample 33 9 7]
    globalWhere := some " " }

/-- The untidy document can be loaded. -/
theorem load_normalises_untidy :
    ∃ q, (untidy.load .preserve).run (.after 0) = (.ok q, .after 0) ∧ q.isConsistent = true ∧
      q.joins.inOrder.map (fun j => (j.left.outer, j.right.outer)) =
        [(true, false), (false, false), (false, true)] ∧ q.globalWhere = none := by
  have hload : (untidy.load .preserve).run (.after 0) =
      (.ok (untidy.loaded (untidy.joins.foldl .extend .empty)), .after 0) := rfl
  obtain ⟨hconsistent, hsaved, -⟩ := load_normalises hload
  -- each later join takes over the flags of the containers that are joined already
  have hflags : untidy.normal.joins.map (fun j => (j.left.outer, j.right.outer)) =
      [(true, false), (false, false), (false, true)] := by decide
  refine ⟨_, hload, hconsistent, ?_, congrArg Document.globalWhere hsaved⟩
  exact (congrArg (fun saved : Document =>
    saved.joins.map fun j => (j.left.outer, j.right.outer)) hsaved).trans hflags

end Document

end VisualQuery
