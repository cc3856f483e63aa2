import VisualQuery.Edit
import VisualQuery.Proofs.JoinRegistry.Changes
import VisualQuery.Proofs.Query.Coherent

/-!
# Properties and the events about them

Queries, containers, items and joins have properties whose changes are announced. Here is one way to
ask for the value of any of them (`Query.value?`), in the form in which events carry values, and one
way to read an event as the change of a property of somebody (`Event.change?`).

What the events cannot tell is the value that somebody starts with. It comes from the edit that adds
it (`Edit.given`): a table, its items, an item or the built-in constants as they are passed, and a
join with the outer flags that the tables have already.
-/

namespace VisualQuery

/-! ### Values -/

/-- Somebody with properties. -/
inductive Target where
  /-- A query. -/
  | query (id : QueryId)
  /-- A container. -/
  | container (id : ContainerId)
  /-- An item. -/
  | item (id : ItemId)
  /-- A join. -/
  | join (id : JoinId)
deriving DecidableEq, Repr

/-- The value of a property of an item. -/
def Item.value? (x : Item) : Property → Option PropertyValue
  | .name => some (.text (some x.name))
  | .aliasText => some (.text x.aliasText)
  | .whereFragment => some (.text x.whereText)
  | .groupFunction => some (.group x.groupFunction)
  | .having => some (.text x.havingText)
  | .columnWidth => some (.integer (x.columnWidth.map fun n => (n.toNat : Int)))
  | .selected => some (.bool x.selected)
  | .sortOrder => some (.sort x.sortOrder)
  | _ => none

/-- The value of a property of a container. -/
def Container.value? (c : Container) : Property → Option PropertyValue
  | .aliasText => some (.text c.aliasText)
  | .position => some (.text (some c.position.value.compact))
  | _ => none

/-- The value of a property of a join. -/
def Join.value? (j : Join) : Property → Option PropertyValue
  | .name => some (.text j.name)
  | .leftOuter => some (.bool j.left.outer)
  | .rightOuter => some (.bool j.right.outer)
  | .comparator => some (.comparator j.comparator)
  | _ => none

namespace Query

/-- The value of a property of the query itself. -/
def setting? (q : Query) : Property → Option PropertyValue
  | .name => some (.text (some q.name))
  | .globalWhere => some (.text q.globalWhere)
  | .groupingEnabled => some (.bool q.grouping)
  | .rowLimit => some (.ofNat q.rowLimit.toNat)
  | .streamingRowLimit => some (.ofNat q.streamingRowLimit.toNat)
  | .streaming => some (.bool q.streaming)
  | .zoomLevel => some (.integer (some q.zoom.toInt))
  | .userOverride => some (.text q.userOverride)
  | _ => none

/-- The value of a property of the query, or of somebody in it. -/
def value? (q : Query) : Target → Property → Option PropertyValue
  | .query id, p => if id = q.id then q.setting? p else none
  | .container c, p => (q.container? c).bind (·.value? p)
  | .item x, p => (q.item? x).bind (·.value? p)
  | .join j, p => (q.joins.get? j).bind (·.value? p)

end Query

/-! ### Events -/

/-- The change of a property that an event announces. -/
def Event.change? : Event → Option (PropertyChange Target)
  | .itemChanged c => some ⟨.item c.target, c.property, c.old, c.new⟩
  | .joinChanged c => some ⟨.join c.target, c.property, c.old, c.new⟩
  | .containerChanged c => some ⟨.container c.target, c.property, c.old, c.new⟩
  | .queryChanged c => some ⟨.query c.target, c.property, c.old, c.new⟩
  | _ => none

/-- Whether an event says that somebody is added. -/
def Event.isAddition : Event → Bool
  | .containerAdded _ | .itemAdded .. | .joinAdded _ => true
  | _ => false

/-- What an event makes of the list of tables: one more at the end, or one less. -/
def Event.onTables (tables : List ContainerId) : Event → List ContainerId
  | .containerAdded c => tables ++ [c]
  | .containerRemoved c => tables.filter (· ≠ c)
  | _ => tables

/-- What an event makes of the list of joins: one more at the end, or one less. -/
def Event.onJoins (joins : List JoinId) : Event → List JoinId
  | .joinAdded j => joins ++ [j]
  | .joinRemoved j => joins.filter (· ≠ j.id)
  | _ => joins

/-- The changes of one property of somebody. -/
def changesOf (t : Target) (p : Property) (events : List Event) : List (PropertyChange Target) :=
  (events.filterMap Event.change?).filter fun c => c.target = t ∧ c.property = p

/-- Changes lead from one value to another: the first one is from there, each goes on where the one
before it led to, and the last one leads there. Without a change the two values are the same. -/
def Chained (old : PropertyValue) : List (PropertyChange Target) → PropertyValue → Prop
  | [], new => new = old
  | c :: rest, new => c.old = old ∧ Chained c.new rest new

theorem changesOf_append (t : Target) (p : Property) (events later : List Event) :
    changesOf t p (events ++ later) = changesOf t p events ++ changesOf t p later := by
  rw [changesOf, List.filterMap_append, List.filter_append, changesOf, changesOf]

theorem Chained.append {old between new : PropertyValue}
    {changes later : List (PropertyChange Target)} (h : Chained old changes between)
    (hlater : Chained between later new) : Chained old (changes ++ later) new := by
  induction changes generalizing old with
  | nil =>
    obtain rfl : between = old := h
    exact hlater
  | cons c changes ih => exact ⟨h.1, ih h.2⟩

/-! ### Edits -/

/-- The items that an edit brings along. -/
def Edit.items : Edit → List Item
  | .addTable table => table.items
  | .addItem _ x => [x]
  | .insertItem _ _ x => [x]
  | .addConstant id text => [.constant id (Text.trim text)]
  | .reset ids => Container.builtins ids
  | _ => []

/-- The join that an edit brings along; joined items are looked up where they are. -/
def Edit.join? (q : Query) : Edit → Option Join
  | .addJoin j => some j
  | .joinItems id left right => do
    let leftContainer ← q.itemIndex.get? left
    let rightContainer ← q.itemIndex.get? right
    return ⟨id, ⟨leftContainer, left, false⟩, ⟨rightContainer, right, false⟩, .eq, none⟩
  | _ => none

/-- The value with which an edit adds somebody to a query. A join comes with the outer flags that
the tables at its ends have already. -/
def Edit.given (e : Edit) (q : Query) : Target → Property → Option PropertyValue
  | .query _, _ => none
  | .container c, p =>
    match e with
    | .addTable table => if c = table.id then table.value? p else none
    | _ => none
  | .item x, p => (e.items.find? (·.id = x)).bind (·.value? p)
  | .join id, p => ((e.join? q).filter (·.id = id)).bind fun j => (q.joins.forced j).value? p

/-- Whether an event of an edit adds somebody. A table that is added brings its items along. -/
def Edit.adds (e : Edit) (event : Event) : Target → Prop
  | .query _ => False
  | .container c => event = .containerAdded c
  | .item x => (∃ c, event = .itemAdded c x) ∨
    (∃ c, event = .containerAdded c) ∧ x ∈ e.items.map (·.id)
  | .join j => event = .joinAdded j

theorem Edit.not_adds {e : Edit} {event : Event} (h : event.isAddition = false) (t : Target) :
    ¬ e.adds event t := by
  intro hadds
  have hevent : event.isAddition = true := by
    cases t with
    | query => exact hadds.elim
    | container c =>
      obtain rfl : event = .containerAdded c := hadds
      rfl
    | item x =>
      -- an item comes by itself or with its table
      rcases hadds with ⟨c, rfl⟩ | ⟨⟨c, rfl⟩, -⟩
      · rfl
      · rfl
    | join j =>
      obtain rfl : event = .joinAdded j := hadds
      rfl
  exact Bool.false_ne_true (h.symm.trans hevent)

/-! ### Looking values up -/

namespace Query

variable {q : Query} {p : Property} {v : PropertyValue}

/-- Somebody who is there has the property with the value. -/
def Holds (q : Query) (p : Property) (v : PropertyValue) : Target → Prop
  | .query id => id = q.id ∧ q.setting? p = some v
  | .container c => ∃ k ∈ q.containers, k.id = c ∧ k.value? p = some v
  | .item x => ∃ y ∈ q.items, y.id = x ∧ y.value? p = some v
  | .join j => ∃ k ∈ q.joins.joins, k.id = j ∧ k.value? p = some v

/-- On a query with the invariant, a value that is found is one that is there. -/
theorem Coherent.value?_iff (h : q.Coherent) {t : Target} :
    q.value? t p = some v ↔ q.Holds p v t := by
  -- the look-up of each kind finds exactly what is there, by the invariant
  cases t with
  | query id =>
    rw [value?, Holds]
    by_cases hid : id = q.id
    · rw [if_pos hid]
      exact ⟨fun hv => ⟨hid, hv⟩, fun hv => hv.2⟩
    · rw [if_neg hid]
      exact ⟨fun hv => absurd hv (by simp), fun hv => absurd hv.1 hid⟩
  | container c =>
    rw [value?, Option.bind_eq_some_iff]
    simp only [h.housed.container?_iff, Holds, and_assoc]
  | item x =>
    rw [value?, Option.bind_eq_some_iff]
    simp only [h.housed.item?_iff, Holds, and_assoc]
  | join j =>
    rw [value?, Option.bind_eq_some_iff]
    -- the registry has each identity once
    have hget : ∀ k, q.joins.get? j = some k ↔ k ∈ q.joins.joins ∧ k.id = j := fun k =>
      Keyed.find?_eq_some_iff h.joins.nodup_joins
    simp only [hget, Holds, and_assoc]

end Query

end VisualQuery
