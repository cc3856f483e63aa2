import VisualQuery.Proofs.CompoundEdits.Moves
import VisualQuery.Proofs.EventLog

/-!
# Compound edits in the log

Whoever follows the log of a session sees compound edits as brackets: a start, changes, an end with
the message of the start, and directly behind it, if there was a change, the notice that the query
may be run (`Session.compound_edits_bracket`).

What a whole log looks like follows from the moves between its moments, by induction along them
(`Query.Trail`). The log alone does not say where it stands; what an induction needs beside it is
the query at the moment before, which knows whether a compound edit is open, with which message, and
whether a change was heard since.
-/

namespace VisualQuery

open Change

/-- Whether the event marks the start or the end of a compound edit. -/
def Event.isBracket : Event → Bool
  | .compoundStarted .. | .compoundEnded .. => true
  | _ => false

/-- Starts and ends of compound edits take turns, from a start on, and an end has the message of the
start before it. -/
def Event.Paired : List Event → Prop
  | [] => True
  | [.compoundStarted _] => True
  | .compoundStarted message :: .compoundEnded message' :: rest =>
    message' = message ∧ Paired rest
  | _ => False

/-! ### Logs -/

/-- A moment at which the query can be seen: an announcement, or the end of an edit. -/
structure Moment where
  /-- What is announced, if anything is. -/
  event : Option Event
  /-- The query at that moment. -/
  query : Query

/-- An announcement as a moment. -/
def Announcement.moment (a : Announcement) : Moment := ⟨some a.event, a.query⟩

/-- How the depth goes from one moment to the next. A start is announced exactly when the depth goes
from zero to one, and an end when it goes from one to zero; there is no other way out of zero, and
no other way back. -/
def Moment.Deepens (m m' : Moment) : Prop :=
  ((∃ message, m'.event = some (.compoundStarted message)) ↔
      m.query.compoundDepth = 0 ∧ m'.query.compoundDepth = 1) ∧
    ((∃ message, m'.event = some (.compoundEnded message)) ↔
      m.query.compoundDepth = 1 ∧ m'.query.compoundDepth = 0) ∧
    (m.query.compoundDepth = 0 → m'.query.compoundDepth ≤ 1) ∧
    (m'.query.compoundDepth = 0 → m.query.compoundDepth ≤ 1)

/-- What is heard at moments. -/
def heard (moments : List Moment) : List Event := moments.filterMap (·.event)

namespace Query

/-- The moments of a history of edits. -/
def moments (q : Query) : List Edit → List Moment
  | [] => []
  | e :: rest =>
    (e.change q).log.map Announcement.moment ++
      ⟨none, (e.change q).query⟩ :: (e.change q).query.moments rest

/-- Moments that lead from one to the next by moves, and at the end of which nothing is due. -/
def Trail (q : Query) : List Moment → Prop
  | [] => q.Settled
  | m :: rest => q.Moves m.event m.query ∧ m.query.Trail rest

variable {q q' : Query}

theorem Passes.trail {log : List Announcement} (h : q.Passes log q') {rest : List Moment}
    (hrest : q'.Trail rest) : q.Trail (log.map Announcement.moment ++ ⟨none, q'⟩ :: rest) := by
  induction log generalizing q with
  | nil => exact ⟨h, hrest⟩
  | cons a log ih => exact ⟨h.1, ih h.2⟩

/-- **The moments of every history lead from one to the next.** -/
theorem trail_moments (hq : q.Settled) (edits : List Edit) : q.Trail (q.moments edits) := by
  induction edits generalizing q with
  | nil => exact hq
  | cons e rest ih =>
    obtain ⟨hpasses, -⟩ := change_follows e q hq
    exact hpasses.trail (ih hpasses.settled)

theorem heard_moments (q : Query) (edits : List Edit) :
    heard (q.moments edits) = q.events edits := by
  induction edits generalizing q with
  | nil => rfl
  | cons e rest ih =>
    have hlog : ∀ log : List Announcement,
        heard (log.map Announcement.moment) = log.map (·.event) := by
      intro log
      rw [heard, List.filterMap_map]
      exact congrFun List.filterMap_eq_map log
    rw [events_cons, ← ih, ← hlog]
    exact List.filterMap_append

theorem compoundDepth_after (hq : q.Settled) (edits : List Edit) :
    (q.after edits).compoundDepth = edits.foldl (fun depth e => e.level depth) q.compoundDepth := by
  induction edits generalizing q with
  | nil => rfl
  | cons e rest ih =>
    obtain ⟨hpasses, hdepth⟩ := change_follows e q hq
    rw [after_cons, ih hpasses.settled, hdepth]
    rfl

theorem Moves.deepens {e : Option Event} (h : q.Moves e q') (event : Option Event) :
    Moment.Deepens ⟨event, q⟩ ⟨e, q'⟩ := by
  -- what is no marker is neither a start nor an end
  have hquiet : (∀ a ∈ e, a.isMarker = false) →
      ∀ message, e ≠ some (.compoundStarted message) ∧ e ≠ some (.compoundEnded message) := by
    intro he message
    constructor <;> rintro rfl <;> exact absurd (he _ rfl) (by simp [Event.isMarker])
  change (_ ↔ q.compoundDepth = 0 ∧ q'.compoundDepth = 1) ∧
    (_ ↔ q.compoundDepth = 1 ∧ q'.compoundDepth = 0) ∧
    (q.compoundDepth = 0 → q'.compoundDepth ≤ 1) ∧ (q'.compoundDepth = 0 → q.compoundDepth ≤ 1)
  cases h with
  | outside he hq hq' =>
    obtain ⟨hdepth, -⟩ := hq
    obtain ⟨hdepth', -⟩ := hq'
    refine ⟨⟨fun ⟨message, h⟩ => absurd h (hquiet he message).1, fun h => by omega⟩,
      ⟨fun ⟨message, h⟩ => absurd h (hquiet he message).2, fun h => by omega⟩, ?_, ?_⟩ <;> omega
  | started hq hdepth =>
    obtain ⟨hzero, -⟩ := hq
    exact ⟨⟨fun _ => ⟨hzero, hdepth⟩, fun _ => ⟨_, rfl⟩⟩,
      ⟨fun ⟨_, h⟩ => absurd h (by simp), fun h => by omega⟩, fun _ => Nat.le_of_eq hdepth,
      fun h => by omega⟩
  | inside he hq hq' =>
    refine ⟨⟨fun ⟨message, h⟩ => absurd h (hquiet he message).1, fun h => by omega⟩,
      ⟨fun ⟨message, h⟩ => absurd h (hquiet he message).2, fun h => by omega⟩, ?_, ?_⟩ <;> omega
  | ended hq hdepth =>
    exact ⟨⟨fun ⟨_, h⟩ => absurd h (by simp), fun h => by omega⟩,
      ⟨fun _ => ⟨hq, hdepth⟩, fun _ => ⟨_, rfl⟩⟩, fun h => by omega, fun _ => Nat.le_of_eq hq⟩
  | due hq _ hq' =>
    obtain ⟨hdepth', -⟩ := hq'
    refine ⟨⟨fun ⟨_, h⟩ => absurd h (by simp), fun h => by omega⟩,
      ⟨fun ⟨_, h⟩ => absurd h (by simp), fun h => by omega⟩, ?_, ?_⟩ <;> omega

namespace Trail

variable {ms : List Moment}

theorem isChain (h : q.Trail ms) (event : Option Event) :
    List.IsChain Moment.Deepens (⟨event, q⟩ :: ms) := by
  induction ms generalizing q event with
  | nil => exact .singleton _
  | cons m ms ih => exact .cons_cons (h.1.deepens event) (ih h.2 m.event)

theorem filter_heard_cons {m : Moment} (hm : ∀ a ∈ m.event, a.isMarker = false) (ms : List Moment) :
    (heard (m :: ms)).filter Event.isBracket = (heard ms).filter Event.isBracket := by
  obtain ⟨e, q'⟩ := m
  cases e with
  | none => rfl
  | some e =>
    have hbracket : ¬ e.isBracket = true := by
      have hmarker := hm e rfl
      cases e <;> simp_all [Event.isMarker, Event.isBracket]
    exact List.filter_cons_of_neg hbracket

/-- Inside of a compound edit the brackets go on behind its start. -/
theorem paired (h : q.Trail ms) :
    Event.Paired (if q.compoundDepth = 0 then (heard ms).filter Event.isBracket
      else .compoundStarted q.compoundMessage :: (heard ms).filter Event.isBracket) := by
  -- an open compound edit owes its end, so its start is put in front of what follows
  induction ms generalizing q with
  | nil => split <;> exact trivial
  | cons m ms ih =>
    obtain ⟨e, q'⟩ := m
    have hmove : q.Moves e q' := h.1
    have hnext := ih h.2
    cases hmove with
    | outside he hq hq' =>
      rw [if_pos hq'.1] at hnext
      rw [if_pos hq.1, filter_heard_cons he]
      exact hnext
    | started hq hdepth hmessage =>
      rw [if_neg (show ¬ q'.compoundDepth = 0 by omega), hmessage] at hnext
      rw [if_pos hq.1]
      exact hnext
    | inside he hq hq' hmessage =>
      rw [if_neg (Nat.pos_iff_ne_zero.mp hq'), hmessage] at hnext
      rw [if_neg (Nat.pos_iff_ne_zero.mp hq), filter_heard_cons he]
      exact hnext
    -- the end meets the start that was put in front
    | ended hq hdepth =>
      rw [if_pos hdepth] at hnext
      rw [if_neg (by omega)]
      exact ⟨rfl, hnext⟩
    | due hq _ hq' =>
      rw [if_pos hq'.1] at hnext
      rw [if_pos hq]
      exact hnext

/-- What is due is heard at once, and nothing is heard as due that is not. -/
theorem head?_heard (h : q.Trail ms) (hq : q.compoundDepth = 0) :
    (heard ms).head? = some .canExecute ↔ q.pending = true := by
  induction ms generalizing q with
  | nil =>
    have hpending : q.pending = false := h hq
    rw [hpending]
    exact ⟨fun h => absurd h (by simp [heard]), fun h => absurd h (by simp)⟩
  | cons m ms ih =>
    obtain ⟨e, q'⟩ := m
    have hmove : q.Moves e q' := h.1
    have hrest : q'.Trail ms := h.2
    -- outside of compound edits, only a move that pays what is due says that the query can be run
    cases hmove with
    | outside he hidle hidle' =>
      rw [hidle.2]
      cases e with
      | none =>
        have hnext := ih hrest hidle'.1
        rw [show q'.pending = false from hidle'.2] at hnext
        exact hnext
      | some e =>
        -- an event that is no marker comes first
        refine ⟨fun hhead => ?_, fun h => absurd h (by simp)⟩
        obtain rfl : e = .canExecute := Option.some.inj hhead
        exact absurd (he _ rfl) (by simp [Event.isMarker])
    | started hidle =>
      rw [hidle.2]
      exact ⟨fun h => absurd h (by simp [heard]), fun h => absurd h (by simp)⟩
    | inside _ hpos => omega
    | ended hone => omega
    | due _ hpending => exact ⟨fun _ => hpending, fun _ => rfl⟩

/-- From inside of a compound edit to its end: whether the mark is set, or a change sets it. -/
theorem head?_of_inside (h : q.Trail ms) (hq : 0 < q.compoundDepth) {changes after : List Event}
    {message : String} (hms : heard ms = changes ++ .compoundEnded message :: after)
    (hchanges : ∀ e ∈ changes, e.isBracket = false) :
    after.head? = some .canExecute ↔ q.pending = true ∨ ∃ e ∈ changes, e.isMarker = false := by
  induction ms generalizing q changes with
  | nil => exact absurd hms (by simp [heard])
  | cons m ms ih =>
    obtain ⟨e, q'⟩ := m
    have hmove : q.Moves e q' := h.1
    have hrest : q'.Trail ms := h.2
    cases hmove with
    | outside _ hidle => exact absurd hidle.1 (Nat.pos_iff_ne_zero.mp hq)
    | started hidle => exact absurd hidle.1 (Nat.pos_iff_ne_zero.mp hq)
    | due hzero => exact absurd hzero (Nat.pos_iff_ne_zero.mp hq)
    | ended hone hdepth hpending =>
      -- the end is heard first, so there are no changes before it
      cases changes with
      | cons c changes =>
        obtain rfl : Event.compoundEnded q.compoundMessage = c := (List.cons.inj hms).1
        exact absurd (hchanges _ List.mem_cons_self) (by simp [Event.isBracket])
      | nil =>
        obtain rfl : heard ms = after := (List.cons.inj hms).2
        rw [head?_heard hrest hdepth, show q'.pending = q.pending from hpending]
        simp
    | inside he hpos hpos' _ hpending =>
      cases e with
      | none =>
        have hsame : q'.pending = q.pending := hpending.trans (Bool.or_false _)
        rw [← hsame]
        exact ih hrest hpos' hms hchanges
      | some e =>
        have hmarker : e.isMarker = false := he e rfl
        have hmark : q'.pending = true := hpending.trans (Bool.or_true _)
        cases changes with
        | nil =>
          obtain rfl : e = .compoundEnded message := (List.cons.inj hms).1
          exact absurd hmarker (by simp [Event.isMarker])
        | cons c changes =>
          -- the first change sets the mark, so both sides are true
          obtain ⟨rfl, hms'⟩ : e = c ∧ heard ms = changes ++ .compoundEnded message :: after :=
            List.cons.inj hms
          rw [ih hrest hpos' hms' fun e he => hchanges e (List.mem_cons_of_mem _ he)]
          exact ⟨fun _ => .inr ⟨e, List.mem_cons_self, hmarker⟩, fun _ => .inl hmark⟩

/-- Behind an end it is told that the query may be run exactly if there was a change inside. -/
theorem head?_after (h : q.Trail ms) {before changes after : List Event} {message message' : String}
    (hms : heard ms = before ++ .compoundStarted message ::
      (changes ++ .compoundEnded message' :: after))
    (hchanges : ∀ e ∈ changes, e.isBracket = false) :
    after.head? = some .canExecute ↔ ∃ e ∈ changes, e.isMarker = false := by
  induction ms generalizing q before with
  | nil => exact absurd hms (by simp [heard])
  | cons m ms ih =>
    obtain ⟨e, q'⟩ := m
    have hmove : q.Moves e q' := h.1
    have hrest : q'.Trail ms := h.2
    cases e with
    | none => exact ih hrest hms
    | some e =>
      cases before with
      | cons b before => exact ih hrest (List.cons.inj hms).2
      | nil =>
        obtain ⟨rfl, hms'⟩ : e = .compoundStarted message ∧
          heard ms = changes ++ .compoundEnded message' :: after := List.cons.inj hms
        cases hmove with
        | outside he => exact absurd (he _ rfl) (by simp [Event.isMarker])
        | inside he => exact absurd (he _ rfl) (by simp [Event.isMarker])
        | started _ hdepth _ hpending =>
          -- the mark is not set at the start
          rw [hrest.head?_of_inside (by omega) hms' hchanges,
            show q'.pending = false from hpending]
          simp

/-- That the query may be run is told directly behind an end, or is due from before. -/
theorem ended_before (h : q.Trail ms) {before after : List Event}
    (hms : heard ms = before ++ .canExecute :: after) :
    (before = [] ∧ q.compoundDepth = 0 ∧ q.pending = true) ∨
      ∃ earlier message, before = earlier ++ [.compoundEnded message] := by
  induction ms generalizing q before with
  | nil => exact absurd hms (by simp [heard])
  | cons m ms ih =>
    obtain ⟨e, q'⟩ := m
    have hmove : q.Moves e q' := h.1
    have hrest : q'.Trail ms := h.2
    cases e with
    | none =>
      -- nothing is due behind an edit
      rcases ih hrest hms with ⟨-, hdepth, hpending⟩ | hended
      · exact absurd (hmove.settled hdepth) (by rw [hpending]; simp)
      · exact .inr hended
    | some e =>
      cases before with
      | nil =>
        obtain rfl : e = .canExecute := (List.cons.inj hms).1
        cases hmove with
        | outside he => exact absurd (he _ rfl) (by simp [Event.isMarker])
        | inside he => exact absurd (he _ rfl) (by simp [Event.isMarker])
        | due hdepth hpending => exact .inl ⟨rfl, hdepth, hpending⟩
      | cons b before =>
        obtain ⟨rfl, hms'⟩ : e = b ∧ heard ms = before ++ .canExecute :: after := List.cons.inj hms
        refine .inr ?_
        rcases ih hrest hms' with ⟨rfl, hdepth, hpending⟩ | ⟨earlier, message, rfl⟩
        · -- it became due by this event, which is an end
          change q'.compoundDepth = 0 at hdepth
          change q'.pending = true at hpending
          cases hmove with
          | outside _ _ hidle => exact absurd hidle.2 (by rw [hpending]; simp)
          | started _ hone => omega
          | inside _ _ hpos => omega
          | ended => exact ⟨[], _, rfl⟩
          | due _ _ hidle => exact absurd hidle.2 (by rw [hpending]; simp)
        · exact ⟨e :: earlier, message, rfl⟩

end Trail

end Query

namespace Session

/-- **Compound edits are brackets in the log.** Whatever edits are made on a new query, compound
edits inside one another and removals inside of them included, as long as no listener fails:

* all listeners hear the same log;
* starts and ends take turns in it, and an end has the message of its start;
* a start is heard exactly when the depth goes from zero to one, and an end exactly when it goes
  from one to zero;
* that the query may be run is heard only directly behind an end;
* it is heard there if and only if a change was heard between the start and the end;
* the depth counts the edits that start a compound edit against those that end one, and ending one
  is refused if and only if the depth is zero. -/
theorem compound_edits_bracket (name : String) (supply : IdSupply) {bus : Bus} (hbus : bus.Quiet)
    (edits : List Edit) {q : Query} (hq : ((Query.new name).run supply).1 = q) {log : List Event}
    (hlog : q.events edits = log) :
    told ⟨q, bus⟩ edits = log.flatMap bus.deliveries ∧
    Event.Paired (log.filter Event.isBracket) ∧
    List.IsChain Moment.Deepens (⟨none, q⟩ :: q.moments edits) ∧
    (∀ before after, log = before ++ .canExecute :: after →
      ∃ earlier message, before = earlier ++ [.compoundEnded message]) ∧
    (∀ before message changes message' after,
      log = before ++ .compoundStarted message :: (changes ++ .compoundEnded message' :: after) →
      (∀ e ∈ changes, e.isBracket = false) →
        (after.head? = some .canExecute ↔ ∃ e ∈ changes, e.isMarker = false)) ∧
    (∀ before, before <+: edits →
      (run ⟨q, bus⟩ before).query.compoundDepth = before.foldl (fun depth e => e.level depth) 0 ∧
      ((run ⟨q, bus⟩ before).perform .endCompoundEdit).ending =
        if (run ⟨q, bus⟩ before).query.compoundDepth = 0 then .refused .unbalancedCompoundEdit
        else .made .nothing) := by
  have hdepth : q.compoundDepth = 0 := by
    rw [← hq]
    rfl
  have hpending : q.pending = false := by
    rw [← hq]
    rfl
  have htrail : q.Trail (q.moments edits) := Query.trail_moments (fun _ => hpending) edits
  have hheard : heard (q.moments edits) = log := (q.heard_moments edits).trans hlog
  refine ⟨?_, ?_, htrail.isChain none, ?_, ?_, ?_⟩
  · rw [← hlog]
    exact told_of_quiet hbus edits
  · have hpaired := htrail.paired
    rw [if_pos hdepth, hheard] at hpaired
    exact hpaired
  · intro before after hsplit
    rcases htrail.ended_before (hheard.trans hsplit) with ⟨-, -, hdue⟩ | hended
    · -- nothing is due in a new query
      rw [hpending] at hdue
      exact absurd hdue (by simp)
    · exact hended
  · intro before message changes message' after hsplit hchanges
    exact htrail.head?_after (hheard.trans hsplit) hchanges
  · intro before _
    have hcount := Query.compoundDepth_after (q := q) (fun _ => hpending) before
    rw [run_of_quiet hbus]
    refine ⟨hcount.trans (by rw [hdepth]), ?_⟩
    rw [perform_of_quiet hbus, Edit.change, map_apply, Query.endCompoundEdit_apply]
    by_cases hzero : (q.after before).compoundDepth = 0
    · rw [if_pos hzero, if_pos hzero]
      rfl
    · rw [if_neg hzero, if_neg hzero, Query.finishCompoundEdit_apply]
      rfl

/-- A compound edit with another one and a change inside, one end too many, and a compound edit
without a change. -/
theorem compound_edits_bracket_sample :
    Bus.log.Quiet ∧
      ∃ log, ((Query.new "sample").run (IdSupply.after 0)).1.events
          [.startCompoundEdit "outer", .startCompoundEdit "inner", .setName "renamed",
            .endCompoundEdit, .endCompoundEdit, .endCompoundEdit, .startCompoundEdit "empty",
            .endCompoundEdit] = log ∧
        log.filter Event.isMarker =
          [.compoundStarted "outer", .compoundEnded "outer", .canExecute, .compoundStarted "empty",
            .compoundEnded "empty"] ∧
        Event.Paired (log.filter Event.isBracket) := by
  refine ⟨Bus.log_quiet, _, rfl, rfl, ?_⟩
  exact (compound_edits_bracket "sample" (IdSupply.after 0) Bus.log_quiet _ rfl rfl).2.1

end Session

end VisualQuery
