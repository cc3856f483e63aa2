import Mathlib.Algebra.Group.End
import Mathlib.Data.List.Perm.Basic
import VisualQuery.Proofs.Query.Coherent
import VisualQuery.Document

/-!
# Other identities for the same document

An identity stands for an object and says nothing about it. A `Relabeling` gives every identity
another one, kind by kind and one to one, and `Document.relabel` writes a document with the new
identities in place of the old ones, wherever they stand; everything else stays.

A relabeling moves every identity there is, while one usually knows only what shall become of the
identities of one document. `Relabeling.exists_of_nodup` closes this gap: whatever different
identities are to take the place of different ones, some relabeling does it. It is put together from
exchanges of two identities, which is why it is one to one outside of the document as well.
-/

namespace VisualQuery

/-- The kinds of objects that have identities. -/
inductive IdKind where
  | query
  | container
  | item
  | join
deriving DecidableEq, Repr

/-- An identity of any kind. -/
structure Identity where
  kind : IdKind
  uuid : Uuid
deriving DecidableEq, Repr

/-- **A one-to-one renaming** of the identities of each kind. -/
structure Relabeling where
  perm : IdKind → Equiv.Perm Uuid

namespace Relabeling

/-- The new identity of a query. -/
def query (ρ : Relabeling) (id : QueryId) : QueryId := ⟨ρ.perm .query id.uuid⟩

/-- The new identity of a container. -/
def container (ρ : Relabeling) (id : ContainerId) : ContainerId := ⟨ρ.perm .container id.uuid⟩

/-- The new identity of an item. -/
def item (ρ : Relabeling) (id : ItemId) : ItemId := ⟨ρ.perm .item id.uuid⟩

/-- The new identity of a join. -/
def join (ρ : Relabeling) (id : JoinId) : JoinId := ⟨ρ.perm .join id.uuid⟩

/-- The new identity of an object of any kind. -/
def identity (ρ : Relabeling) (i : Identity) : Identity := ⟨i.kind, ρ.perm i.kind i.uuid⟩

variable (ρ : Relabeling)

theorem container_injective : Function.Injective ρ.container := by
  rintro ⟨a⟩ ⟨b⟩ hab
  exact congrArg ContainerId.mk ((ρ.perm .container).injective (ContainerId.mk.inj hab))

theorem item_injective : Function.Injective ρ.item := by
  rintro ⟨a⟩ ⟨b⟩ hab
  exact congrArg ItemId.mk ((ρ.perm .item).injective (ItemId.mk.inj hab))

theorem join_injective : Function.Injective ρ.join := by
  rintro ⟨a⟩ ⟨b⟩ hab
  exact congrArg JoinId.mk ((ρ.perm .join).injective (JoinId.mk.inj hab))

@[simp] theorem container_inj {c d : ContainerId} : ρ.container c = ρ.container d ↔ c = d :=
  ρ.container_injective.eq_iff

@[simp] theorem item_inj {x y : ItemId} : ρ.item x = ρ.item y ↔ x = y := ρ.item_injective.eq_iff

/-- The relabeling with two identities of one kind exchanged afterwards. -/
def exchange (ρ : Relabeling) (kind : IdKind) (u v : Uuid) : Relabeling :=
  ⟨Function.update ρ.perm kind ((ρ.perm kind).trans (Equiv.swap u v))⟩

/-- **Any new identities will do**, as long as they are different ones. -/
theorem exists_of_nodup {ids : List Identity} (hids : ids.Nodup) {new : List Uuid}
    (hnew : new.Nodup) (hlength : ids.length = new.length) :
    ∃ ρ : Relabeling, ids.map (fun i => (ρ.identity i).uuid) = new := by
  induction ids generalizing new with
  | nil => exact ⟨⟨fun _ => Equiv.refl _⟩, (List.eq_nil_of_length_eq_zero hlength.symm).symm⟩
  | cons i ids ih =>
    obtain _ | ⟨u, new⟩ := new
    · exact absurd hlength (by simp)
    rw [List.nodup_cons] at hids hnew
    obtain ⟨ρ, hρ⟩ := ih hids.2 hnew.2 (Nat.succ.inj hlength)
    -- the rest is in place; the first identity changes places with what should be there
    refine ⟨ρ.exchange i.kind (ρ.perm i.kind i.uuid) u, List.cons_eq_cons.mpr ⟨?_, ?_⟩⟩
    · show (Function.update ρ.perm i.kind _ i.kind) i.uuid = u
      rw [Function.update_self]
      exact Equiv.swap_apply_left _ _
    · rw [← hρ]
      refine List.map_congr_left fun k hk => ?_
      show (Function.update ρ.perm i.kind _ k.kind) k.uuid = ρ.perm k.kind k.uuid
      by_cases hkind : k.kind = i.kind
      · rw [hkind, Function.update_self]
        refine Equiv.swap_apply_of_ne_of_ne (fun heq => ?_) (fun heq => ?_)
        · -- another identity of the kind has another place
          have huuid : k.uuid = i.uuid := (ρ.perm i.kind).injective heq
          have hki : k = i := congrArg₂ Identity.mk hkind huuid
          exact hids.1 (hki ▸ hk)
        · refine hnew.1 (hρ ▸ List.mem_map.mpr ⟨k, hk, ?_⟩)
          show ρ.perm k.kind k.uuid = u
          rw [hkind]
          exact heq
      · rw [Function.update_of_ne hkind]

end Relabeling

/-! ### Relabeled documents -/

/-- The item under new identities. -/
def Item.relabel (ρ : Relabeling) (x : Item) : Item :=
  { x with id := ρ.item x.id, parent := x.parent.map ρ.container }

/-- The container and its items under new identities. -/
def Container.relabel (ρ : Relabeling) (k : Container) : Container :=
  { k with id := ρ.container k.id, items := k.items.map (Item.relabel ρ) }

/-- The end of a join at the new identities. -/
def JoinEnd.relabel (ρ : Relabeling) (e : JoinEnd) : JoinEnd :=
  { e with container := ρ.container e.container, item := ρ.item e.item }

/-- The join between the new identities, under a new one. -/
def Join.relabel (ρ : Relabeling) (j : Join) : Join :=
  { j with id := ρ.join j.id, left := j.left.relabel ρ, right := j.right.relabel ρ }

/-- **The document with new identities** in place of the old ones, and with nothing else changed. -/
def Document.relabel (ρ : Relabeling) (d : Document) : Document :=
  { d with
    id := ρ.query d.id
    constants := d.constants.relabel ρ
    tables := d.tables.map (Container.relabel ρ)
    joins := d.joins.map (Join.relabel ρ)
    selectedItems := d.selectedItems.map ρ.item
    orderByItems := d.orderByItems.map ρ.item }

variable (ρ : Relabeling)

theorem Item.map_relabel_id (items : List Item) :
    (items.map (Item.relabel ρ)).map (·.id) = (items.map (·.id)).map ρ.item := by
  rw [List.map_map, List.map_map]
  rfl

theorem Container.map_relabel_id (containers : List Container) :
    (containers.map (Container.relabel ρ)).map (·.id) =
      (containers.map (·.id)).map ρ.container := by
  rw [List.map_map, List.map_map]
  rfl

theorem Join.map_relabel_id (joins : List Join) :
    (joins.map (Join.relabel ρ)).map (·.id) = (joins.map (·.id)).map ρ.join := by
  rw [List.map_map, List.map_map]
  rfl

namespace Container

theorem relabel_ids (k : Container) :
    (k.relabel ρ).items.map (·.id) = (k.items.map (·.id)).map ρ.item :=
  Item.map_relabel_id ρ k.items

theorem flatMap_relabel_items (containers : List Container) :
    (containers.map (Container.relabel ρ)).flatMap (·.items) =
      (containers.flatMap (·.items)).map (Item.relabel ρ) := by
  rw [List.flatMap_map, List.map_flatMap]
  rfl

theorem item?_relabel (k : Container) (x : ItemId) :
    (k.relabel ρ).item? (ρ.item x) = (k.item? x).map (Item.relabel ρ) := by
  have hid : (fun y : Item => decide (y.id = ρ.item x)) ∘ Item.relabel ρ =
      fun y => decide (y.id = x) :=
    funext fun y => decide_eq_decide.mpr (ρ.item_inj (x := y.id))
  unfold item? relabel
  rw [List.find?_map, hid]

end Container

namespace Join

theorem atSide_relabel (j : Join) (side : Side) :
    (j.relabel ρ).atSide side = (j.atSide side).relabel ρ := by
  cases side <;> rfl

theorem sideOf?_relabel (j : Join) (c : ContainerId) :
    (j.relabel ρ).sideOf? (ρ.container c) = j.sideOf? c := by
  unfold sideOf?
  simp only [show (j.relabel ρ).left.container = ρ.container j.left.container from rfl,
    show (j.relabel ρ).right.container = ρ.container j.right.container from rfl, ρ.container_inj]

theorem touches_relabel (j : Join) (c : ContainerId) :
    (j.relabel ρ).touches (ρ.container c) = j.touches c := by
  rw [touches, touches, sideOf?_relabel]

theorem connects_relabel (j : Join) (a b : ContainerId) :
    (j.relabel ρ).connects (ρ.container a) (ρ.container b) = j.connects a b := by
  unfold connects
  simp only [show (j.relabel ρ).left.container = ρ.container j.left.container from rfl,
    show (j.relabel ρ).right.container = ρ.container j.right.container from rfl, ρ.container_inj]

theorem otherContainer?_relabel (j : Join) (c : ContainerId) :
    (j.relabel ρ).otherContainer? (ρ.container c) = (j.otherContainer? c).map ρ.container := by
  unfold otherContainer?
  rw [sideOf?_relabel, Option.map_map]
  exact congrArg (Option.map · _) (funext fun side => by cases side <;> rfl)

end Join

/-! ### The identities of a document -/

/-- The identity of a container and those of its items. -/
def Container.identities (k : Container) : List Identity :=
  ⟨.container, k.id.uuid⟩ :: k.items.map fun x => ⟨.item, x.id.uuid⟩

/-- The identities of the query, its containers, items and joins. -/
def Document.identities (d : Document) : List Identity :=
  ⟨.query, d.id.uuid⟩ :: ((d.constants :: d.tables).flatMap Container.identities ++
    d.joins.map fun j => ⟨.join, j.id.uuid⟩)

theorem Container.identities_relabel (k : Container) :
    (k.relabel ρ).identities = k.identities.map ρ.identity := by
  unfold Container.identities relabel
  rw [List.map_cons, List.map_map, List.map_map]
  rfl

theorem Document.identities_relabel (d : Document) :
    (d.relabel ρ).identities = d.identities.map ρ.identity := by
  have hcontainers : (d.relabel ρ).constants :: (d.relabel ρ).tables =
      (d.constants :: d.tables).map (Container.relabel ρ) := rfl
  have hflat : ((d.constants :: d.tables).map (Container.relabel ρ)).flatMap Container.identities =
      ((d.constants :: d.tables).flatMap Container.identities).map ρ.identity := by
    rw [List.flatMap_map, List.map_flatMap]
    exact congrArg (List.flatMap · _) (funext fun k => k.identities_relabel ρ)
  unfold identities
  rw [hcontainers, hflat, List.map_cons, List.map_append]
  unfold relabel
  rw [List.map_map, List.map_map]
  rfl

/-- The identities of containers are those of the containers and those of their items. -/
theorem Container.identities_flatMap_perm (containers : List Container) :
    (containers.map (fun k : Container => Identity.mk .container k.id.uuid) ++
      (containers.flatMap (·.items)).map fun x : Item => Identity.mk .item x.id.uuid).Perm
      (containers.flatMap Container.identities) := by
  rw [List.map_flatMap]
  exact List.map_append_flatMap_perm containers _ _

/-- The identities of a query with the invariant are different ones. -/
theorem Query.Coherent.identities_nodup {q : Query} (h : q.Coherent) :
    (Document.ofQuery q).identities.Nodup := by
  have hcontainers : (q.containers.map fun k => Identity.mk .container k.id.uuid).Nodup := by
    have hnd := h.housed.containers_nodup.map (f := fun c => Identity.mk .container c.uuid)
      fun c d hcd => congrArg ContainerId.mk (Identity.mk.inj hcd).2
    rwa [List.map_map] at hnd
  have hitems : (q.items.map fun x => Identity.mk .item x.id.uuid).Nodup := by
    have hnd := h.itemIds_nodup.map (f := fun x => Identity.mk .item x.uuid)
      fun x y hxy => congrArg ItemId.mk (Identity.mk.inj hxy).2
    rwa [List.map_map] at hnd
  have hjoins : (q.joins.joins.map fun j => Identity.mk .join j.id.uuid).Nodup := by
    have hnd := h.joins.nodup.map (f := fun j => Identity.mk .join j.uuid)
      fun j k hjk => congrArg JoinId.mk (Identity.mk.inj hjk).2
    rwa [← h.joins.mapped, List.map_map] at hnd
  have hboth : (q.containers.flatMap Container.identities).Nodup := by
    refine (Container.identities_flatMap_perm q.containers).nodup_iff.mp ?_
    refine List.nodup_append.mpr ⟨hcontainers, hitems, ?_⟩
    rintro _ hk _ hx rfl
    obtain ⟨k, -, rfl⟩ := List.mem_map.mp hk
    simp at hx
  rw [Document.identities, Document.ofQuery, h.fromTables_eq, h.joins.inOrder_eq]
  -- identities of different kinds differ
  refine List.nodup_cons.mpr ⟨?_, List.nodup_append.mpr ⟨hboth, hjoins, ?_⟩⟩
  · simp [Container.identities]
  · rintro _ hk _ hj rfl
    obtain ⟨j, -, rfl⟩ := List.mem_map.mp hj
    obtain ⟨k, -, hk⟩ := List.mem_flatMap.mp hk
    simp [Container.identities] at hk

end VisualQuery
