import VisualQuery.Event

/-!
# Listeners

The listeners of a query are told of an event one after the other, the most recent subscriber
first. A listener may fail at an event; then the listeners behind it are not told, and the change
that announced the event stops there.
-/

namespace VisualQuery

/-- A listener, as far as the query can tell one from another. -/
structure Listener where
  /-- The listener's name. -/
  name : String
  /-- The kind of events at which the listener fails. -/
  failsAt : Option EventKind
deriving DecidableEq, Repr

/-- A subscription. -/
structure Subscription where
  /-- The handle to end the subscription with. -/
  handle : Nat
  /-- Who subscribed. -/
  listener : Listener
deriving DecidableEq, Repr

/-- The listeners of a query. -/
structure Bus where
  /-- The subscriptions, the oldest one first. -/
  subscriptions : List Subscription
  /-- The handle of the next subscription. -/
  nextHandle : Nat
deriving DecidableEq, Repr

/-- The call of a listener with an event. -/
structure Delivery where
  /-- The subscription through which the listener is called. -/
  handle : Nat
  /-- Who is called. -/
  listener : Listener
  /-- What it is told of. -/
  event : Event
deriving DecidableEq, Repr

namespace Bus

/-- No listeners. -/
def empty : Bus := ⟨[], 0⟩

/-- Adds a listener; returns the handle of the subscription. -/
def subscribe (bus : Bus) (listener : Listener) : Nat × Bus :=
  (bus.nextHandle,
    { subscriptions := bus.subscriptions ++ [⟨bus.nextHandle, listener⟩]
      nextHandle := bus.nextHandle + 1 })

/-- Ends a subscription; returns whether there was one with the handle. -/
def unsubscribe (bus : Bus) (handle : Nat) : Bool × Bus :=
  let left := bus.subscriptions.filter (·.handle ≠ handle)
  (left.length ≠ bus.subscriptions.length, { bus with subscriptions := left })

/-- The subscriptions whose listeners are called one after the other, up to the first that fails. -/
def called (fails : Subscription → Bool) : List Subscription → List Subscription
  | [] => []
  | s :: rest => if fails s then [s] else s :: called fails rest

/-- The subscriptions whose listeners are called for one event, the most recent subscriber first. -/
def calls (bus : Bus) (fails : Subscription → Bool) : List Subscription :=
  called fails bus.subscriptions.reverse

/-- Tells the listeners of an event. Returns the calls, and whether none of them failed; if one did,
it was the last one. -/
def emit (bus : Bus) (event : Event) : List Delivery × Bool :=
  let fails := fun s : Subscription => decide (s.listener.failsAt = some event.kind)
  let calls := bus.calls fails
  (calls.map fun s => ⟨s.handle, s.listener, event⟩, calls.all (!fails ·))

end Bus

end VisualQuery
