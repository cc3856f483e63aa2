import VisualQuery.Bus
import VisualQuery.Document
import VisualQuery.Edit

/-!
# Sessions

A session is a query together with its listeners. An edit is made by running its change and telling
the listeners of each announcement in turn. If a listener fails, the edit stops there: the query is
left as it was announced, and nothing is told afterwards.
-/

namespace VisualQuery

/-- A query and its listeners. -/
structure Session where
  /-- The query. -/
  query : Query
  /-- The listeners. -/
  bus : Bus

/-- How an edit ended. -/
inductive Ending where
  /-- It was made. -/
  | made (reply : Reply)
  /-- It was refused. -/
  | refused (cause : QueryError)
  /-- A listener failed. -/
  | stopped

/-- What came of an edit. -/
structure Performed where
  /-- How it ended. -/
  ending : Ending
  /-- The session afterwards. -/
  session : Session
  /-- What the listeners took note of, in order. The call that failed is not among it. -/
  told : List Delivery

namespace Session

/-- A session on a query that nobody listens to. -/
def ofQuery (q : Query) : Session := ⟨q, .empty⟩

/-- A session on a copy of the query. Whoever listens to the query does not listen to the copy. -/
def duplicate (s : Session) : Minting Session := return ofQuery (← s.query.duplicate)

/-- A session on the query of a document. -/
def load (mode : IdentityMode) (d : Document) : Minting (Except DocumentError Session) :=
  return (← d.load mode).map ofQuery

/-- Tells the listeners of announcements in order. Returns what they took note of, and the query at
which a listener failed, if one did. -/
def tellAll (bus : Bus) : List Announcement → List Delivery × Option Query
  | [] => ([], none)
  | a :: rest =>
    let (calls, finished) := bus.emit a.event
    if finished then
      -- everybody was told, so the change went on
      let (later, failedAt) := tellAll bus rest
      (calls ++ later, failedAt)
    else
      -- the last one that was called did not get to take note of the event
      (calls.dropLast, some a.query)

/-- Makes an edit. -/
def perform (s : Session) (e : Edit) : Performed :=
  let o := e.change s.query
  match tellAll s.bus o.log with
  | (told, some q) => ⟨.stopped, { s with query := q }, told⟩
  | (told, none) =>
    let ending :=
      match o.result with
      | .ok reply => .made reply
      | .error cause => .refused cause
    ⟨ending, { s with query := o.query }, told⟩

end Session

end VisualQuery
