import VisualQuery.Proofs.Query.Relabel

/-!
# A copy is the query under fresh identities

A copy is made in passes. The containers are copied first and a record is kept of what became of
their identities; joins, selection and sort list are then led through the record, and whatever the
record does not know is left out without a word. Nothing is left out of a query with the invariant.

The identities that are drawn, in the order in which they are drawn, take the place of the
identities of the document in the order of `Document.identities`. If they differ from each other,
some relabeling does exactly that (`Relabeling.exists_draws`), and the copy is the query under it
(`Coherent.duplicate_run`): each pass of the copying is followed by the relabeling, and what the
record holds is a part of its graph (`Renaming.along`). What is true of the query under any other
identities is then true of its copy, in particular that the statements are the same.
-/

namespace VisualQuery

/-! ### Drawing identities -/

namespace IdSupply

/-- The next identifiers that are drawn, `n` of them. -/
def draw (s : IdSupply) (n : Nat) : List Uuid :=
  (List.range n).map fun i => s.sequence (s.next + i)

/-- The supply once `n` identifiers are drawn. -/
def skip (s : IdSupply) (n : Nat) : IdSupply := { s with next := s.next + n }

theorem skip_skip (s : IdSupply) (m n : Nat) : (s.skip m).skip n = s.skip (m + n) := by
  unfold skip
  rw [Nat.add_assoc]

theorem draw_succ (s : IdSupply) (n : Nat) :
    s.draw (n + 1) = s.sequence s.next :: (s.skip 1).draw n := by
  unfold draw skip
  rw [List.range_succ_eq_map, List.map_cons, List.map_map]
  refine congrArg (List.cons _) (List.map_congr_left fun i _ => ?_)
  show s.sequence (s.next + (i + 1)) = s.sequence (s.next + 1 + i)
  rw [Nat.add_assoc, Nat.add_comm 1]

end IdSupply

namespace Relabeling

/-- The new identities are those that a supply gives next, in the order of the old ones. -/
def Draws (ρ : Relabeling) (s : IdSupply) (ids : List Identity) : Prop :=
  ids.map (fun i => (ρ.identity i).uuid) = s.draw ids.length

theorem exists_draws {s : IdSupply} {ids : List Identity} (hids : ids.Nodup)
    (hs : s.Fresh ids.length) : ∃ ρ : Relabeling, ρ.Draws s ids := by
  have hlength : ids.length = (s.draw ids.length).length := by
    rw [IdSupply.draw, List.length_map, List.length_range]
  exact exists_of_nodup hids hs hlength

variable {ρ : Relabeling} {s : IdSupply}

theorem draws_cons {i : Identity} {ids : List Identity} :
    ρ.Draws s (i :: ids) ↔ s.sequence s.next = (ρ.identity i).uuid ∧ ρ.Draws (s.skip 1) ids := by
  unfold Draws
  rw [List.map_cons, List.length_cons, s.draw_succ, List.cons_eq_cons, eq_comm]

theorem draws_append {ids ids' : List Identity} :
    ρ.Draws s (ids ++ ids') ↔ ρ.Draws s ids ∧ ρ.Draws (s.skip ids.length) ids' := by
  induction ids generalizing s with
  | nil => exact ⟨fun h => ⟨rfl, h⟩, fun h => h.2⟩
  | cons i ids ih =>
    rw [List.cons_append, draws_cons, draws_cons, ih, IdSupply.skip_skip, and_assoc,
      List.length_cons, Nat.add_comm 1]

end Relabeling

theorem Minting.run_bind_eq {α β : Type} {m : Minting α} {s s' : IdSupply} {a : α}
    (h : m.run s = (a, s')) (f : α → Minting β) : (m >>= f).run s = (f a).run s' :=
  congrArg (fun p : α × IdSupply => (f p.1).run p.2) h

/-! ### Copies of containers -/

variable {ρ : Relabeling} {s : IdSupply}

theorem Container.copyItems_run (items : List Item)
    (hs : ρ.Draws s (items.map fun x => ⟨.item, x.id.uuid⟩)) :
    StateT.run (items.mapM (fun x => return x.copyAs (← ItemId.mint) : Item → Minting Item)) s =
      (items.map fun x => x.copyAs (ρ.item x.id), s.skip items.length) := by
  induction items generalizing s with
  | nil => rfl
  | cons x items ih =>
    rw [List.map_cons, Relabeling.draws_cons] at hs
    have hitem : StateT.run (return x.copyAs (← ItemId.mint) : Minting Item) s =
        (x.copyAs (ρ.item x.id), s.skip 1) :=
      congrArg (fun u => (x.copyAs ⟨u⟩, s.skip 1)) hs.1
    -- one identifier is drawn for the first item, the rest continue behind it
    rw [List.mapM_cons, Minting.run_bind_eq hitem, Minting.run_bind_eq (ih hs.2), List.length_cons,
      IdSupply.skip_skip, Nat.add_comm 1]
    rfl

/-- The copy of a container whose items know it is the container under the identities drawn. -/
theorem Container.copy_run (k : Container) (hparent : ∀ x ∈ k.items, x.parent = some k.id)
    (hs : ρ.Draws s k.identities) : k.copy.run s = (k.relabel ρ, s.skip k.identities.length) := by
  rw [Container.identities, Relabeling.draws_cons] at hs
  have hid : ContainerId.mint.run s = (ρ.container k.id, s.skip 1) :=
    congrArg (fun u => (ContainerId.mk u, s.skip 1)) hs.1
  -- the items are told of the copy, where they knew the original
  have hitems : (k.items.map fun x => x.copyAs (ρ.item x.id)).map
      (fun x => { x with parent := some (ρ.container k.id) }) = k.items.map (Item.relabel ρ) := by
    rw [List.map_map]
    refine List.map_congr_left fun x hx => ?_
    show ({ x with id := ρ.item x.id, parent := some (ρ.container k.id) } : Item) = x.relabel ρ
    rw [Item.relabel, hparent x hx, Option.map_some]
  have hlength : k.identities.length = 1 + k.items.length := by
    rw [Container.identities, List.length_cons, List.length_map, Nat.add_comm]
  unfold Container.copy
  rw [Minting.run_bind_eq hid, Minting.run_bind_eq (copyItems_run k.items hs.2),
    IdSupply.skip_skip, hlength]
  show ({ k with id := ρ.container k.id, items := _ }, _) = (k.relabel ρ, _)
  rw [hitems]
  rfl

/-! ### The record -/

/-- The record in which some containers and items have become what a relabeling makes of them. -/
def Renaming.along (ρ : Relabeling) (containers : List ContainerId) (items : List ItemId) :
    Renaming :=
  { containers := containers.map fun c => (c, ρ.container c)
    items := items.map fun x => (x, ρ.item x) }

namespace Renaming

variable {cs : List ContainerId} {xs : List ItemId}

theorem record_along (k : Container) :
    (along ρ cs xs).record k (k.relabel ρ) =
      along ρ (k.id :: cs) ((k.items.map (·.id)).reverse ++ xs) := by
  unfold record along
  rw [Container.relabel_ids, ← List.map_prod_left_eq_zip, List.map_append, List.map_reverse]
  rfl

theorem item?_along {x : ItemId} (hx : x ∈ xs) : (along ρ cs xs).item? x = some (ρ.item x) :=
  List.lookup_graph ρ.item hx

theorem joinEnd?_along {e : JoinEnd} (hc : e.container ∈ cs) (hx : e.item ∈ xs) :
    (along ρ cs xs).joinEnd? e = some (e.relabel ρ) := by
  have hcontainer : (along ρ cs xs).containers.lookup e.container =
      some (ρ.container e.container) :=
    List.lookup_graph ρ.container hc
  unfold joinEnd?
  rw [hcontainer, item?_along hx]
  rfl

theorem filterMap_item?_along {ids : List ItemId} (hids : ∀ x ∈ ids, x ∈ xs) :
    ids.filterMap (along ρ cs xs).item? = ids.map ρ.item := by
  rw [List.filterMap_congr fun x hx => item?_along (hids x hx)]
  exact congrFun (List.filterMap_eq_map (f := ρ.item)) ids

end Renaming

namespace Query

open Document (ofQuery)

variable {q : Query}

theorem copyContainers_run (cs : List ContainerId) (xs : List ItemId) (containers : List Container)
    (hparent : ∀ k ∈ containers, ∀ x ∈ k.items, x.parent = some k.id)
    (hs : ρ.Draws s (containers.flatMap Container.identities)) :
    (copyContainers (.along ρ cs xs) containers).run s =
      ((containers.map (Container.relabel ρ),
        .along ρ ((containers.map (·.id)).reverse ++ cs)
          (((containers.flatMap (·.items)).map (·.id)).reverse ++ xs)),
        s.skip (containers.flatMap Container.identities).length) := by
  induction containers generalizing s cs xs with
  | nil => rfl
  | cons k containers ih =>
    rw [List.forall_mem_cons] at hparent
    rw [List.flatMap_cons, Relabeling.draws_append] at hs
    -- the rest starts from the record of the first container
    have hrest := ih (k.id :: cs) ((k.items.map (·.id)).reverse ++ xs) hparent.2 hs.2
    rw [← Renaming.record_along, IdSupply.skip_skip] at hrest
    rw [copyContainers, Minting.run_bind_eq (k.copy_run hparent.1 hs.1), Minting.run_bind_eq hrest]
    simp only [List.map_cons, List.flatMap_cons, List.map_append, List.reverse_cons,
      List.reverse_append, List.append_assoc, List.singleton_append, List.length_append]
    rfl

/-- Copies of joins between known items are registered one after the other. -/
theorem copyJoins_run (js : List Join) {into : JoinRegistry} (hinto : into.Coherent)
    {cs : List ContainerId} {xs : List ItemId}
    (hends : ∀ j ∈ js, ∀ side, (j.atSide side).container ∈ cs ∧ (j.atSide side).item ∈ xs)
    (hapart : ∀ j ∈ js, j.left.container ≠ j.right.container)
    (hfresh : Fresh into.ids (js.map fun j => ρ.join j.id))
    (hs : ρ.Draws s (js.map fun j => ⟨.join, j.id.uuid⟩)) :
    (copyJoins (.along ρ cs xs) into js).run s =
      ((js.map (Join.relabel ρ)).foldl .extend into, s.skip js.length) := by
  induction js generalizing s into with
  | nil => rfl
  | cons j js ih =>
    rw [List.forall_mem_cons] at hends hapart
    rw [List.map_cons, fresh_cons] at hfresh
    rw [List.map_cons, Relabeling.draws_cons] at hs
    have hid : JoinId.mint.run s = (ρ.join j.id, s.skip 1) :=
      congrArg (fun u => (JoinId.mk u, s.skip 1)) hs.1
    have hleft : (Renaming.along ρ cs xs).joinEnd? j.left = some (j.left.relabel ρ) :=
      Renaming.joinEnd?_along (hends.1 .left).1 (hends.1 .left).2
    have hright : (Renaming.along ρ cs xs).joinEnd? j.right = some (j.right.relabel ρ) :=
      Renaming.joinEnd?_along (hends.1 .right).1 (hends.1 .right).2
    have hnew : (j.relabel ρ).id ∉ into.ids := hfresh.1
    have hc : (j.relabel ρ).left.container ≠ (j.relabel ρ).right.container := fun heq =>
      hapart.1 (ρ.container_injective heq)
    -- the copy fits, since its identity is new and its ends are at different containers
    have hadd : into.add (j.relabel ρ) = .ok (into.forcedChanges (j.relabel ρ),
        into.extend (j.relabel ρ)) := by
      rw [hinto.add_eq, if_neg hnew, if_neg hc]
    have hrest := ih (hinto.extend hnew hc) hends.2 hapart.2
      ((fresh_congr (JoinRegistry.mem_ids_extend into (j.relabel ρ))).mpr hfresh.2) hs.2
    rw [IdSupply.skip_skip] at hrest
    have hcopy : j.relabel ρ = { id := ρ.join j.id, left := j.left.relabel ρ
                                 right := j.right.relabel ρ, comparator := j.comparator
                                 name := j.name } := rfl
    rw [copyJoins, hleft, hright]
    dsimp only
    rw [Minting.run_bind_eq hid, ← hcopy, hadd, List.length_cons, Nat.add_comm]
    exact hrest

/-- Entering the renamed containers finds nothing to set right. -/
theorem Coherent.reindex_relabel (h : q.Coherent) :
    reindex { onConstants (ρ.query q.id) q.name (q.constants.relabel ρ) with
      tables := q.tables.map (Container.relabel ρ)
      tableIds := (q.tables.map (Container.relabel ρ)).map (·.id) } =
    { onConstants (ρ.query q.id) q.name (q.constants.relabel ρ) with
      tables := q.tables.map (Container.relabel ρ)
      tableIds := q.tableIds.map ρ.container
      itemIndex := (q.containers.map (Container.relabel ρ)).foldl ItemIndex.enter [] } := by
  -- the items of a coherent query carry their parent already, so adopting changes nothing
  have hadopt : ∀ k ∈ q.containers, (k.relabel ρ).adopt = k.relabel ρ := by
    intro k hk
    refine Container.adopt_eq_self fun _ hx => ?_
    exact (h.housed_relabel ρ).parent _ (List.mem_map_of_mem hk) _ hx
  have htables : (q.tables.map (Container.relabel ρ)).map Container.adopt =
      q.tables.map (Container.relabel ρ) := by
    rw [List.map_map]
    exact List.map_congr_left fun k hk => hadopt k (List.mem_cons_of_mem _ hk)
  have hconstants := hadopt q.constants List.mem_cons_self
  unfold reindex onConstants
  dsimp only
  rw [htables, hconstants, Container.map_relabel_id, h.mapped]
  rfl

/-- The record once all containers of a query are copied. -/
def copyRecord (ρ : Relabeling) (q : Query) : Renaming :=
  .along ρ (q.containers.map (·.id)).reverse (q.items.map (·.id)).reverse

/-- Behind the constants, the tables are copied, and the record is complete. -/
theorem Coherent.copyTables_run (h : q.Coherent)
    (hs : ρ.Draws s (q.tables.flatMap Container.identities)) :
    (copyContainers (Renaming.empty.record q.constants (q.constants.relabel ρ)) q.tables).run s =
      ((q.tables.map (Container.relabel ρ), q.copyRecord ρ),
        s.skip (q.tables.flatMap Container.identities).length) := by
  have hempty : Renaming.empty = .along ρ [] [] := rfl
  -- the constants are recorded before the tables, so the record starts with theirs
  have hrun := copyContainers_run [q.constants.id]
    ((q.constants.items.map (·.id)).reverse ++ []) q.tables
    (fun k hk => h.housed.parent k (List.mem_cons_of_mem _ hk)) hs
  rw [List.append_nil] at hrun
  rw [hempty, Renaming.record_along, List.append_nil, hrun, copyRecord, items, containers,
    List.map_cons, List.reverse_cons, List.flatMap_cons, List.map_append, List.reverse_append]

/-- With the complete record, all joins are copied. -/
theorem Coherent.copyJoins_run (h : q.Coherent)
    (hs : ρ.Draws s (q.joins.joins.map fun j => ⟨.join, j.id.uuid⟩)) :
    (copyJoins (q.copyRecord ρ) .empty q.joins.joins).run s =
      ((q.relabel ρ).joins, s.skip q.joins.joins.length) := by
  refine Query.copyJoins_run q.joins.joins .empty (fun j hj side => ?_) h.joins.apart ?_ hs
  · -- both ends were copied before, so the record knows container and item
    obtain ⟨x, hx, hid, -⟩ := h.item?_end hj side
    have htable := h.end_mem_tableIds hj side
    exact ⟨List.mem_reverse.mpr (List.mem_cons_of_mem _ (h.mapped ▸ htable)),
      List.mem_reverse.mpr (hid ▸ List.mem_map_of_mem hx)⟩
  · have hnd := h.joins.nodup_joins.map ρ.join_injective
    rw [List.map_map] at hnd
    exact fresh_nil_left.mpr hnd

/-- **The copy of a query with the invariant is the query under the identities drawn.** -/
theorem Coherent.duplicate_run (h : q.Coherent) (hs : ρ.Draws s (ofQuery q).identities) :
    q.duplicate.run s = (q.relabel ρ, s.skip (ofQuery q).identities.length) := by
  have hidentities : (ofQuery q).identities = ⟨.query, q.id.uuid⟩ ::
      (q.constants.identities ++ q.tables.flatMap Container.identities ++
        q.joins.joins.map fun j => ⟨.join, j.id.uuid⟩) := by
    rw [h.listed.ofQuery_eq]
    rfl
  have hlength : (ofQuery q).identities.length = 1 + (q.constants.identities.length +
      ((q.tables.flatMap Container.identities).length + q.joins.joins.length)) := by
    rw [hidentities, List.length_cons, List.length_append, List.length_append, List.length_map]
    omega
  rw [hidentities, Relabeling.draws_cons, Relabeling.draws_append, Relabeling.draws_append,
    List.length_append, ← IdSupply.skip_skip] at hs
  obtain ⟨hid, ⟨hconstants, htables⟩, hjoins⟩ := hs
  have hminted : QueryId.mint.run s = (ρ.query q.id, s.skip 1) :=
    congrArg (fun u => (QueryId.mk u, s.skip 1)) hid
  have hcopy := q.constants.copy_run (h.housed.parent _ List.mem_cons_self) hconstants
  -- the record knows everything that the selection and the sort list name
  have hlist : ∀ ids : List ItemId, (∀ x ∈ ids, x ∈ q.items.map (·.id)) →
      ids.filterMap (q.copyRecord ρ).item? = ids.map ρ.item := fun ids hids =>
    Renaming.filterMap_item?_along fun x hx => List.mem_reverse.mpr (hids x hx)
  unfold duplicate
  rw [h.fromTables_eq, h.joins.inOrder_eq]
  rw [Minting.run_bind_eq hminted, Minting.run_bind_eq hcopy,
    Minting.run_bind_eq (h.copyTables_run htables), Minting.run_bind_eq (h.copyJoins_run hjoins),
    h.reindex_relabel, hlist _ fun _ => h.selection.mem_ids, hlist _ fun _ => h.sortList.mem_ids,
    IdSupply.skip_skip, IdSupply.skip_skip, IdSupply.skip_skip, hlength]
  rfl

end Query

end VisualQuery
