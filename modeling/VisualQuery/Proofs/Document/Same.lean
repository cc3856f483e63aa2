import VisualQuery.Document
import VisualQuery.Proofs.Query.Coherent

/-!
# The same document

Two documents are the same if they agree field by field. Positions are compared as data
(`Position.same`), as the library compares them: the two zeros of the doubles are one number, so two
documents may be the same and not be equal. Everything else that is saved is compared as it is.

What is read here off two queries whose documents are the same is all that an edit can change:
their items, tables, lists and joins.
-/

namespace VisualQuery

/-! ### Values that agree as data -/

namespace Json

theorem Number.same_refl (n : Number) : n.same n = true := by
  cases n with
  | whole m => exact beq_self_eq_true m.val
  | double a => rw [Number.same, beq_self_eq_true, Bool.true_or]

mutual

/-- A value agrees with itself. -/
theorem same_refl : (v : Json) → v.same v = true
  | .null => rfl
  | .bool b => by rw [same, beq_self_eq_true]
  | .number n => by rw [same, n.same_refl]
  | .text s => by rw [same, beq_self_eq_true]
  | .array elements => by rw [same, sameElements_refl elements]
  | .object members => by rw [same, sameMembers_refl members]

theorem sameElements_refl : (vs : List Json) → sameElements vs vs = true
  | [] => rfl
  | v :: rest => by rw [sameElements, same_refl v, sameElements_refl rest, Bool.and_self]

theorem sameMembers_refl : (members : List (String × Json)) → sameMembers members members = true
  | [] => rfl
  | (name, v) :: rest => by
    rw [sameMembers, beq_self_eq_true, same_refl v, sameMembers_refl rest, Bool.and_self,
      Bool.and_self]

end

end Json

/-! ### Documents -/

/-- What is saved are the tables of the map and the joins of the registry. -/
theorem Query.Listed.ofQuery_eq {q : Query} (h : q.Listed) :
    Document.ofQuery q =
      { Document.ofQuery q with tables := q.tables, joins := q.joins.joins } := by
  rw [Document.ofQuery, h.fromTables_eq, h.joins.inOrder_eq]

/-- **Two containers are the same**, up to how their positions are written. -/
structure Container.Same (c d : Container) : Prop where
  /-- They have the same identity, name, alias, kind and items. -/
  fields : { c with position := .none } = { d with position := .none }
  /-- They have the same position. -/
  position : c.position.same d.position = true

/-- **Two documents are the same**, up to how the positions of containers are written. -/
structure Document.Same (d d' : Document) : Prop where
  /-- They agree in everything but the containers. -/
  fields : { d with constants := d'.constants, tables := d'.tables } = d'
  /-- The constants container is the same. -/
  constants : d.constants.Same d'.constants
  /-- The tables are the same, in the same order. -/
  tables : List.Forall₂ Container.Same d.tables d'.tables

namespace Container.Same

variable {c d : Container}

theorem refl (c : Container) : c.Same c := ⟨rfl, c.position.value.same_refl⟩

theorem id_eq (h : c.Same d) : c.id = d.id := congrArg (·.id) h.fields

theorem aliasText_eq (h : c.Same d) : c.aliasText = d.aliasText := congrArg (·.aliasText) h.fields

theorem items_eq (h : c.Same d) : c.items = d.items := congrArg (·.items) h.fields

theorem map_eq {β : Type} {f : Container → β} (hf : ∀ {c d}, c.Same d → f c = f d)
    {cs ds : List Container} (h : List.Forall₂ Container.Same cs ds) : cs.map f = ds.map f := by
  induction h with
  | nil => rfl
  | cons hcd _ ih => rw [List.map_cons, List.map_cons, hf hcd, ih]

end Container.Same

namespace Document

theorem Same.refl (d : Document) : d.Same d :=
  ⟨rfl, .refl _, List.forall₂_same.mpr fun c _ => .refl c⟩

namespace Same

variable {q q' : Query}

theorem containers (h : (ofQuery q).Same (ofQuery q')) (hq : q.Listed) (hq' : q'.Listed) :
    List.Forall₂ Container.Same q.containers q'.containers := by
  refine .cons h.constants ?_
  rw [← hq.fromTables_eq, ← hq'.fromTables_eq]
  exact h.tables

/-- The containers have the same items. -/
theorem items_eq (h : (ofQuery q).Same (ofQuery q')) (hq : q.Listed) (hq' : q'.Listed) :
    q.items = q'.items := by
  rw [Query.items, Query.items, List.flatMap_def, List.flatMap_def,
    Container.Same.map_eq Container.Same.items_eq (h.containers hq hq')]

theorem tableIds_eq (h : (ofQuery q).Same (ofQuery q')) (hq : q.Listed) (hq' : q'.Listed) :
    q.tableIds = q'.tableIds := by
  rw [← hq.mapped, ← hq'.mapped, ← hq.fromTables_eq, ← hq'.fromTables_eq]
  exact Container.Same.map_eq Container.Same.id_eq h.tables

theorem selection_eq (h : (ofQuery q).Same (ofQuery q')) : q.selection = q'.selection :=
  congrArg (·.selectedItems) h.fields

theorem joins_eq (h : (ofQuery q).Same (ofQuery q')) (hq : q.Listed) (hq' : q'.Listed) :
    q.joins.joins = q'.joins.joins := by
  rw [← hq.joins.inOrder_eq, ← hq'.joins.inOrder_eq]
  exact congrArg (·.joins) h.fields

end Same

end Document

end VisualQuery
