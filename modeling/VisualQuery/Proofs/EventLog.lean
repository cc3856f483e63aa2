import VisualQuery.Proofs.History

/-!
# What listeners hear of a history

The listeners of a session hear of a history through the events that its edits announce, one edit
after the other (`Query.events`). As long as no listener fails, every event goes to every
subscriber, the most recent one first (`Session.told_of_quiet`). So all of them hear the same log,
and what is proved about the announcements of a query holds of what any of them hears.
-/

namespace VisualQuery

namespace Query

/-- The query after a history of edits. -/
def after (q : Query) (edits : List Edit) : Query :=
  edits.foldl (fun q e => (e.change q).query) q

/-- What a history of edits announces, in order. -/
def announcements (q : Query) : List Edit → List Announcement
  | [] => []
  | e :: rest => (e.change q).log ++ (e.change q).query.announcements rest

/-- The events that a history of edits announces, in order. -/
def events (q : Query) (edits : List Edit) : List Event := (q.announcements edits).map (·.event)

theorem after_cons (q : Query) (e : Edit) (rest : List Edit) :
    q.after (e :: rest) = (e.change q).query.after rest := rfl

theorem events_cons (q : Query) (e : Edit) (rest : List Edit) :
    q.events (e :: rest) = (e.change q).log.map (·.event) ++ (e.change q).query.events rest :=
  List.map_append

/-- A history of well-formed edits stays at queries with the invariant. -/
theorem Coherent.after {q : Query} (h : q.Coherent) {edits : List Edit}
    (hedits : ∀ e ∈ edits, e.WellFormed) : (q.after edits).Coherent := by
  induction edits generalizing q with
  | nil => exact h
  | cons e rest ih =>
    exact ih (h.change (hedits e List.mem_cons_self)) fun e he =>
      hedits e (List.mem_cons_of_mem _ he)

end Query

/-! ### Deliveries -/

/-- The listeners of a session in which only a log is kept. -/
def Bus.log : Bus := (Bus.empty.subscribe ⟨"log", none⟩).2

theorem Bus.log_quiet : Bus.log.Quiet := by
  intro s hs
  rw [List.mem_singleton.mp hs]

namespace Session

/-- What the listeners of a session are told of a history, in order. -/
def told (s : Session) : List Edit → List Delivery
  | [] => []
  | e :: rest => (s.perform e).told ++ (s.perform e).session.told rest

/-- As long as no listener fails, a history leads to the query that its changes lead to. -/
theorem run_of_quiet {s : Session} (h : s.bus.Quiet) (edits : List Edit) :
    s.run edits = ⟨s.query.after edits, s.bus⟩ := by
  induction edits generalizing s with
  | nil => rfl
  | cons e rest ih =>
    change (s.perform e).session.run rest = _
    rw [perform_of_quiet h]
    exact ih h

/-- **Every listener hears every event**, in the order of the announcements. -/
theorem told_of_quiet {s : Session} (h : s.bus.Quiet) (edits : List Edit) :
    s.told edits = (s.query.events edits).flatMap s.bus.deliveries := by
  induction edits generalizing s with
  | nil => rfl
  | cons e rest ih =>
    have hrest := ih (s := ⟨(e.change s.query).query, s.bus⟩) h
    rw [told, perform_of_quiet h, hrest, Query.events_cons, List.flatMap_append]

end Session

end VisualQuery
