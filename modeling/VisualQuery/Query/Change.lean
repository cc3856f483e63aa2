import VisualQuery.Event
import VisualQuery.Query.Basic

/-!
# Changes

A change takes a query to another one, announces events on its way, and ends with a value or a
refusal. Each announcement is kept together with the query as it is at that moment: a listener that
fails there leaves this query behind.

A refusal keeps the query as it was reached; that it is in fact the one the change started from is a
theorem about the changes of this library, not part of the type.
-/

namespace VisualQuery

/-- An event together with the query at the moment the listeners are told. -/
structure Announcement where
  /-- What is announced. -/
  event : Event
  /-- The query at that moment. -/
  query : Query

/-- What a change comes to. -/
structure Outcome (α : Type) where
  /-- The value, or the refusal. -/
  result : Except QueryError α
  /-- The query that was reached. -/
  query : Query
  /-- The announcements in order. -/
  log : List Announcement

/-- A change of a query. -/
def Change (α : Type) := Query → Outcome α

namespace Change

variable {α β : Type}

/-- The change that does nothing. -/
protected def pure (a : α) : Change α := fun q => ⟨.ok a, q, []⟩

/-- One change after another; a refusal of the first one is the end. -/
protected def bind (m : Change α) (f : α → Change β) : Change β := fun q =>
  let first := m q
  match first.result with
  | .error e => ⟨.error e, first.query, first.log⟩
  | .ok a =>
    -- the second log comes behind the first
    let second := f a first.query
    ⟨second.result, second.query, first.log ++ second.log⟩

instance : Monad Change where
  pure := Change.pure
  bind := Change.bind

/-- The query as it is. -/
def get : Change Query := fun q => ⟨.ok q, q, []⟩

/-- Changes the query without an announcement. -/
def modify (f : Query → Query) : Change Unit := fun q => ⟨.ok (), f q, []⟩

/-- Refuses to go on. -/
def refuse (e : QueryError) : Change α := fun q => ⟨.error e, q, []⟩

/-- The value, or the refusal if there is none. -/
def need (e : QueryError) : Option α → Change α
  | some a => pure a
  | none => refuse e

/-- Makes a change and goes on whatever comes of it. -/
def attempt (m : Change α) : Change (Except QueryError α) := fun q =>
  let o := m q
  ⟨.ok o.result, o.query, o.log⟩

/-- Ends as the result says. -/
def conclude (r : Except QueryError α) : Change α := fun q => ⟨r, q, []⟩

/-- Tells the listeners. Inside a compound edit a change that is announced makes the query due to
be run again. -/
def announce (e : Event) : Change Unit := fun q =>
  -- the listeners see the query with the mark set
  let q := if 0 < q.compoundDepth ∧ e.isMarker = false then { q with pending := true } else q
  ⟨.ok (), q, [⟨e, q⟩]⟩

/-- Tells the listeners of several events in order. -/
def announceAll : List Event → Change Unit
  | [] => pure ()
  | e :: rest => do
    announce e
    announceAll rest

/-! ### Each step by itself -/

@[simp] theorem pure_apply (a : α) (q : Query) :
    (pure a : Change α) q = ⟨.ok a, q, []⟩ := rfl

theorem bind_apply (m : Change α) (f : α → Change β) (q : Query) :
    (m >>= f) q =
      match (m q).result with
      | .error e => ⟨.error e, (m q).query, (m q).log⟩
      | .ok a =>
        ⟨(f a (m q).query).result, (f a (m q).query).query, (m q).log ++ (f a (m q).query).log⟩ :=
  rfl

@[simp] theorem get_apply (q : Query) : get q = ⟨.ok q, q, []⟩ := rfl

@[simp] theorem modify_apply (f : Query → Query) (q : Query) :
    modify f q = ⟨.ok (), f q, []⟩ := rfl

@[simp] theorem refuse_apply (e : QueryError) (q : Query) :
    (refuse e : Change α) q = ⟨.error e, q, []⟩ := rfl

end Change

end VisualQuery
