import VisualQuery.Proofs.Query.Steady

/-!
# What edits do to a compound edit

Three fields of a query belong to the compound edit that is open. They are written in many places,
and an edit may open a compound edit inside one that is open already. What can happen to them, and
what listeners hear of it, is said once: from one moment to the next (`Query.Moves`). The moments
are those at which somebody can look at the query: when something is announced, and behind an edit.

Every edit goes from moment to moment (`Query.change_follows`). For most of them that is because
they are steady. The rest are the two edits that open and close a compound edit, and those that do a
steady change as one, which is announced only if no compound edit is open.
-/

namespace VisualQuery

open Change

/-- How many compound edits are open behind an edit, if there were `depth` of them before it. -/
def Edit.level : Edit → (depth : Nat) → Nat
  | .startCompoundEdit _, depth => depth + 1
  | .endCompoundEdit, depth => depth - 1
  | _, depth => depth

namespace Query

/-! ### Moments and moves -/

/-- No compound edit is open, and nothing is due. -/
def Idle (q : Query) : Prop := q.compoundDepth = 0 ∧ q.pending = false

/-- Nothing is due: the mark belongs to a compound edit that is open. -/
def Settled (q : Query) : Prop := q.compoundDepth = 0 → q.pending = false

/-- **What can happen from one moment to the next**: to the compound edit, and to the listeners. -/
inductive Moves (q : Query) : Option Event → Query → Prop where
  /-- Outside of a compound edit changes leave no mark. -/
  | outside {e : Option Event} {q' : Query} (he : ∀ a ∈ e, a.isMarker = false) (hq : q.Idle)
      (hq' : q'.Idle) : Moves q e q'
  /-- The outermost compound edit is opened. -/
  | started {message : String} {q' : Query} (hq : q.Idle) (hdepth : q'.compoundDepth = 1)
      (hmessage : q'.compoundMessage = message) (hpending : q'.pending = false) :
      Moves q (some (.compoundStarted message)) q'
  /-- Inside of one a change leaves its mark, and more of them are opened and closed unheard. -/
  | inside {e : Option Event} {q' : Query} (he : ∀ a ∈ e, a.isMarker = false)
      (hq : 0 < q.compoundDepth) (hq' : 0 < q'.compoundDepth)
      (hmessage : q'.compoundMessage = q.compoundMessage)
      (hpending : q'.pending = (q.pending || e.isSome)) : Moves q e q'
  /-- The outermost compound edit is closed; the mark is left for the moment. -/
  | ended {q' : Query} (hq : q.compoundDepth = 1) (hdepth : q'.compoundDepth = 0)
      (hpending : q'.pending = q.pending) : Moves q (some (.compoundEnded q.compoundMessage)) q'
  /-- The mark is taken off, and the listeners are told that the query may be run. -/
  | due {q' : Query} (hq : q.compoundDepth = 0) (hpending : q.pending = true) (hq' : q'.Idle) :
      Moves q (some .canExecute) q'

/-- The announcements of an edit are moments, and behind them comes the end of the edit. -/
def Passes (q : Query) : List Announcement → Query → Prop
  | [], q' => q.Moves none q'
  | a :: log, q' => q.Moves (some a.event) a.query ∧ a.query.Passes log q'

variable {q q' : Query}

theorem Moves.none_of_eq (hq : q.Settled) (hcompound : q'.compound = q.compound) :
    q.Moves none q' := by
  obtain ⟨hdepth, hmessage, hpending⟩ := compound_eq_iff.mp hcompound
  have hnone : ∀ a ∈ (none : Option Event), a.isMarker = false := fun _ ha => absurd ha (by simp)
  by_cases hd : q.compoundDepth = 0
  · exact .outside hnone ⟨hd, hq hd⟩ ⟨hdepth.trans hd, hpending.trans (hq hd)⟩
  · refine .inside hnone (Nat.pos_of_ne_zero hd) ?_ hmessage ?_
    · rw [hdepth]
      exact Nat.pos_of_ne_zero hd
    · rw [hpending, Option.isSome_none, Bool.or_false]

/-- Nothing is due behind an edit. -/
theorem Moves.settled (h : q.Moves none q') : q'.Settled := by
  intro hd
  cases h with
  | outside _ _ hq' => exact hq'.2
  | inside _ _ hq' => exact absurd hd (Nat.pos_iff_ne_zero.mp hq')

theorem Passes.settled {log : List Announcement} (h : q.Passes log q') : q'.Settled := by
  induction log generalizing q with
  | nil => exact Moves.settled h
  | cons a log ih => exact ih h.2

/-! ### What edits do -/

theorem passes_inside {log : List Announcement} (hq : 0 < q.compoundDepth)
    (hlog : ∀ a ∈ log, a.event.isMarker = false ∧ 0 < a.query.compoundDepth ∧
      a.query.compoundMessage = q.compoundMessage ∧ a.query.pending = true)
    (hq' : 0 < q'.compoundDepth) (hmessage : q'.compoundMessage = q.compoundMessage)
    (hpending : q'.pending = (q.pending || !log.isEmpty)) : q.Passes log q' := by
  induction log generalizing q with
  | nil => exact .inside (fun _ ha => absurd ha (by simp)) hq hq' hmessage hpending
  | cons a log ih =>
    obtain ⟨hmarker, hdepth, hsame, hmark⟩ := hlog a List.mem_cons_self
    constructor
    · refine .inside (fun b hb => ?_) hq hdepth hsame (hmark.trans (Bool.or_true _).symm)
      rw [← Option.mem_some.mp hb]
      exact hmarker
    · -- from the first announcement on the mark is set
      refine ih hdepth (fun b hb => ?_) (hmessage.trans hsame.symm) ?_
      · obtain ⟨hmarker', hdepth', hsame', hmark'⟩ := hlog b (List.mem_cons_of_mem _ hb)
        exact ⟨hmarker', hdepth', hsame'.trans hsame.symm, hmark'⟩
      · rw [hpending, hmark, Bool.true_or, List.isEmpty_cons, Bool.not_false, Bool.or_true]

theorem passes_outside {log : List Announcement} (hq : q.Idle)
    (hlog : ∀ a ∈ log, a.event.isMarker = false ∧ a.query.Idle) (hq' : q'.Idle) :
    q.Passes log q' := by
  -- outside every bracket no event but a marker can change anything, and there is none
  induction log generalizing q with
  | nil => exact .outside (fun _ ha => absurd ha (by simp)) hq hq'
  | cons a log ih =>
    obtain ⟨hmarker, hidle⟩ := hlog a List.mem_cons_self
    constructor
    · refine .outside (fun b hb => ?_) hq hidle
      rw [← Option.mem_some.mp hb]
      exact hmarker
    · exact ih hidle fun b hb => hlog b (List.mem_cons_of_mem _ hb)

theorem passes_of_steadyAt {α : Type} {o : Outcome α} (hq : q.Settled) (h : SteadyAt q o) :
    q.Passes o.log o.query := by
  obtain ⟨hdepth, hmessage, hpending⟩ := compound_eq_iff.mp h.reached
  have hlog : ∀ a ∈ o.log, a.event.isMarker = false ∧ a.query.compoundDepth = q.compoundDepth ∧
      a.query.compoundMessage = q.compoundMessage ∧
      a.query.pending = (q.pending || decide (0 < q.compoundDepth)) := by
    intro a ha
    obtain ⟨hmarker, hcompound⟩ := h.announced a ha
    exact ⟨hmarker, compound_eq_iff.mp hcompound⟩
  rw [pending_notedIf] at hpending
  by_cases hd : q.compoundDepth = 0
  · -- nothing is marked outside of a compound edit
    have hunmarked : decide (0 < q.compoundDepth) = false := by simp [hd]
    rw [hunmarked, Bool.and_false, Bool.or_false, hq hd] at hpending
    refine passes_outside ⟨hd, hq hd⟩ (fun a ha => ?_) ⟨hdepth.trans hd, hpending⟩
    obtain ⟨hmarker, hdepth', -, hpending'⟩ := hlog a ha
    rw [hunmarked, Bool.or_false, hq hd] at hpending'
    exact ⟨hmarker, hdepth'.trans hd, hpending'⟩
  · -- inside of one everything that is announced is marked
    have hpos : 0 < q.compoundDepth := Nat.pos_of_ne_zero hd
    rw [decide_eq_true hpos, Bool.and_true] at hpending
    refine passes_inside hpos (fun a ha => ?_) (hdepth ▸ hpos) hmessage hpending
    obtain ⟨hmarker, hdepth', hmessage', hpending'⟩ := hlog a ha
    rw [decide_eq_true hpos, Bool.or_true] at hpending'
    exact ⟨hmarker, hdepth' ▸ hpos, hmessage', hpending'⟩

/-! ### Around a compound edit -/

/-- What is announced at the start of a compound edit. -/
def opening (message : String) (q : Query) : List Announcement :=
  if q.compoundDepth = 0 then [⟨.compoundStarted message, q.opened message⟩] else []

/-- The query at the moment at which the end of the outermost compound edit is announced. -/
def ending (q : Query) : Query := { q with compoundDepth := 0, compoundMessage := "" }

/-- What is announced at the end of a compound edit. -/
def closing (q : Query) : List Announcement :=
  if q.compoundDepth ≤ 1 then
    ⟨.compoundEnded q.compoundMessage, q.ending⟩ ::
      if q.pending then [⟨.canExecute, q.closed⟩] else []
  else []

theorem finishCompoundEdit_apply (q : Query) :
    finishCompoundEdit q = ⟨.ok (), q.closed, q.closing⟩ := by
  rw [finishCompoundEdit, modify_bind, get_bind, closed, closing]
  by_cases hd : q.compoundDepth ≤ 1
  · have hzero : q.compoundDepth - 1 = 0 := by omega
    rw [if_pos hd, if_pos hd, if_pos hzero, modify_bind, bind_of_ok (announce_marker rfl _),
      get_bind, modify_bind, closed, if_pos hd, hzero]
    -- the last event is a marker or missing
    have hlast : ∀ (due : Bool) (q : Query),
        (if due then announce .canExecute else pure () : Change Unit) q =
          ⟨.ok (), q, if due then [⟨.canExecute, q⟩] else []⟩ := by
      intro due q
      cases due with
      | false => rfl
      | true => exact announce_marker rfl q
    rw [hlast]
    rfl
  · rw [if_neg hd, if_neg hd, if_neg (show ¬ q.compoundDepth - 1 = 0 by omega)]
    rfl

theorem asCompoundEdit_apply {α : Type} (message : String) (m : Change α) (q : Query) :
    asCompoundEdit message m q =
      ⟨(m (q.opened message)).result, (m (q.opened message)).query.closed,
        q.opening message ++
          ((m (q.opened message)).log ++ (m (q.opened message)).query.closing)⟩ := by
  rw [asCompoundEdit, bind_of_ok (startCompoundEdit_apply message q),
    bind_of_ok (attempt_apply m _), bind_of_ok (finishCompoundEdit_apply _)]
  simp [conclude, opening]

/-- The end of the outermost compound edit is announced, and behind it what is due. -/
theorem passes_closing (hd : q.compoundDepth = 1) : q.Passes q.closing q.closed := by
  have hle : q.compoundDepth ≤ 1 := Nat.le_of_eq hd
  have hclosed : q.closed.Idle := by
    rw [closed, if_pos hle]
    exact ⟨rfl, rfl⟩
  have hended : q.Moves (some (.compoundEnded q.compoundMessage)) q.ending := .ended hd rfl rfl
  rw [closing, if_pos hle]
  cases hpending : q.pending with
  | false => exact ⟨hended, .outside (fun _ ha => absurd ha (by simp)) ⟨rfl, hpending⟩ hclosed⟩
  | true =>
    -- the mark is left when the end is announced, and taken off right behind it
    refine ⟨hended, .due rfl hpending hclosed, ?_⟩
    exact .outside (fun _ ha => absurd ha (by simp)) hclosed hclosed

/-- Changes inside of the outermost compound edit, up to its end. -/
theorem passes_append_closing {log : List Announcement} (hd : q.compoundDepth = 1)
    (hlog : ∀ a ∈ log, a.event.isMarker = false ∧ a.query.compound = q.noted.compound)
    (hq' : q'.compound = (q.notedIf (!log.isEmpty)).compound) :
    q.Passes (log ++ q'.closing) q'.closed := by
  induction log generalizing q with
  | nil =>
    -- without an announcement the two queries do not differ in what the end needs
    obtain ⟨hdepth, hmessage, hpending⟩ := compound_eq_iff.mp hq'
    rw [pending_notedIf, List.isEmpty_nil, Bool.not_true, Bool.false_and, Bool.or_false] at hpending
    have hclosing := passes_closing (hdepth.trans hd)
    rw [closing, if_pos (Nat.le_of_eq (hdepth.trans hd))] at hclosing ⊢
    refine ⟨?_, hclosing.2⟩
    rw [hmessage]
    exact .ended hd rfl hpending
  | cons a log ih =>
    obtain ⟨hmarker, hcompound⟩ := hlog a List.mem_cons_self
    obtain ⟨hdepth, hmessage, hpending⟩ := compound_eq_iff.mp hcompound
    -- the mark is set by now, and stays set
    have hsame : ∀ b, (a.query.notedIf b).compound = q.noted.compound := by
      intro b
      rw [compound_notedIf hcompound, noted, notedIf_notedIf, Bool.true_or]
    have hpos : 0 < q.compoundDepth := by omega
    have hmark : a.query.pending = true := by
      rw [hpending, noted, pending_notedIf, decide_eq_true hpos, Bool.true_and, Bool.or_true]
    constructor
    · refine .inside (fun b hb => ?_) hpos ?_ hmessage (hmark.trans (Bool.or_true _).symm)
      · rw [← Option.mem_some.mp hb]
        exact hmarker
      · rw [hdepth]
        exact hpos
    · refine ih (hdepth.trans hd) (fun b hb => ?_) ?_
      · obtain ⟨hmarker', hcompound'⟩ := hlog b (List.mem_cons_of_mem _ hb)
        exact ⟨hmarker', hcompound'.trans (hsame true).symm⟩
      · rw [hsame, hq']
        rfl

/-! ### Every edit -/

/-- The change goes from moment to moment, and behind it the depth is what `level` says. -/
def Follows {α : Type} (m : Change α) (level : Nat → Nat) : Prop :=
  ∀ q : Query, q.Settled →
    q.Passes (m q).log (m q).query ∧ (m q).query.compoundDepth = level q.compoundDepth

namespace Follows

variable {α β : Type} {m : Change α} {f : α → Change β} {level : Nat → Nat}

theorem of_steady (hm : Steady m) : Follows m fun depth => depth := fun q hq =>
  ⟨passes_of_steadyAt hq (hm q), (compound_eq_iff.mp (hm q).reached).1⟩

theorem map (hm : Follows m level) (g : α → β) : Follows (g <$> m) level := by
  intro q hq
  rw [map_apply]
  exact hm q hq

/-- What is looked up first does not matter. -/
theorem of_reads_bind (hm : Reads m) (hf : ∀ a, Follows (f a) fun depth => depth) :
    Follows (m >>= f) fun depth => depth := by
  intro q hq
  rcases hm.cases q with ⟨a, ha⟩ | ⟨e, he⟩
  · rw [bind_of_silent ha]
    exact hf a q hq
  · rw [bind_of_refused he]
    exact ⟨Moves.none_of_eq hq rfl, rfl⟩

/-- A steady change that is made as a compound edit, or inside of one that is open already. -/
theorem asCompoundEdit (hm : Steady m) (message : String) :
    Follows (asCompoundEdit message m) fun depth => depth := by
  intro q hq
  rw [asCompoundEdit_apply]
  have hinner := hm (q.opened message)
  obtain ⟨hdepth, hmessage, hpending⟩ := compound_eq_iff.mp hinner.reached
  by_cases hd : q.compoundDepth = 0
  · have hopened : q.opened message =
        { q with compoundDepth := 1, compoundMessage := message, pending := false } := if_pos hd
    have hone : (q.opened message).compoundDepth = 1 := by rw [hopened]
    rw [opening, if_pos hd]
    refine ⟨⟨.started ⟨hd, hq hd⟩ hone (by rw [hopened]) (by rw [hopened]), ?_⟩, ?_⟩
    · exact passes_append_closing hone hinner.announced hinner.reached
    · dsimp only
      rw [closed, if_pos (Nat.le_of_eq (hdepth.trans hone)), hd]
  · -- the compound edit that is open stays open, and nobody hears of this one
    have hopened : q.opened message = { q with compoundDepth := q.compoundDepth + 1 } := if_neg hd
    have htwo : (q.opened message).compoundDepth = q.compoundDepth + 1 := by rw [hopened]
    have hdeep : ¬ (m (q.opened message)).query.compoundDepth ≤ 1 := by
      rw [hdepth]
      change ¬ (q.opened message).compoundDepth ≤ 1
      omega
    have hpos : decide (0 < (q.opened message).compoundDepth) = true := by
      rw [htwo]
      exact decide_eq_true (Nat.succ_pos _)
    have hsame : (q.opened message).compoundMessage = q.compoundMessage := by rw [hopened]
    have hmark : (q.opened message).pending = q.pending := by rw [hopened]
    rw [opening, if_neg hd, List.nil_append, closing, if_neg hdeep, List.append_nil, closed,
      if_neg hdeep]
    have hback : (m (q.opened message)).query.compoundDepth - 1 = q.compoundDepth := by
      rw [hdepth]
      change (q.opened message).compoundDepth - 1 = _
      omega
    refine ⟨passes_inside (Nat.pos_of_ne_zero hd) (fun a ha => ?_) ?_ ?_ ?_, hback⟩
    · obtain ⟨hmarker, hcompound⟩ := hinner.announced a ha
      obtain ⟨hdepth', hmessage', hpending'⟩ := compound_eq_iff.mp hcompound
      refine ⟨hmarker, ?_, hmessage'.trans hsame, ?_⟩
      · rw [hdepth']
        exact of_decide_eq_true hpos
      · rw [hpending', noted, pending_notedIf, hpos, Bool.true_and, Bool.or_true]
    · change 0 < (m (q.opened message)).query.compoundDepth - 1
      omega
    · exact hmessage.trans hsame
    · change (m (q.opened message)).query.pending = _
      rw [hpending, pending_notedIf, hpos, Bool.and_true, hmark]

end Follows

theorem startCompoundEdit_follows (message : String) :
    Follows (startCompoundEdit message) (· + 1) := by
  intro q hq
  rw [startCompoundEdit_apply, opened]
  -- only the outermost bracket is told, an inner one only counts
  by_cases hd : q.compoundDepth = 0
  · rw [if_pos hd, if_pos hd, hd]
    refine ⟨⟨.started ⟨hd, hq hd⟩ rfl rfl rfl, ?_⟩, rfl⟩
    exact Moves.none_of_eq (fun h => absurd h (by simp)) rfl
  · rw [if_neg hd, if_neg hd]
    refine ⟨.inside (fun _ ha => absurd ha (by simp)) (Nat.pos_of_ne_zero hd) (Nat.succ_pos _) rfl
      ?_, rfl⟩
    rw [Option.isSome_none, Bool.or_false]

theorem endCompoundEdit_follows : Follows endCompoundEdit (· - 1) := by
  intro q hq
  rw [endCompoundEdit_apply]
  by_cases hd : q.compoundDepth = 0
  · -- there is nothing to end, so nothing happens
    rw [if_pos hd]
    refine ⟨Moves.none_of_eq hq rfl, ?_⟩
    change q.compoundDepth = _
    rw [hd]
  · rw [if_neg hd, finishCompoundEdit_apply]
    dsimp only
    by_cases hle : q.compoundDepth ≤ 1
    · have hone : q.compoundDepth = 1 := by omega
      refine ⟨passes_closing hone, ?_⟩
      rw [closed, if_pos hle, hone]
    · rw [closing, if_neg hle, closed, if_neg hle]
      refine ⟨.inside (fun _ ha => absurd ha (by simp)) (Nat.pos_of_ne_zero hd) ?_ rfl ?_, rfl⟩
      · change 0 < q.compoundDepth - 1
        omega
      · rw [Option.isSome_none, Bool.or_false]

theorem removeItem_follows (id : ItemId) : Follows (removeItem id) fun depth => depth := by
  refine Follows.of_reads_bind .get fun q => .of_reads_bind (.need _ _) fun x => ?_
  exact .asCompoundEdit (detachItem_ordinary id).steady _

theorem removeTable_follows (id : ContainerId) : Follows (removeTable id) fun depth => depth := by
  -- the guard either refuses or goes on to the body, and reading the query moves nothing
  have hbody : Follows (do
      let table ← need (.unknownContainer id) ((← get).table? id)
      Query.asCompoundEdit ("Removing table " ++ table.name) (detachTable id))
      fun depth => depth := by
    refine Follows.of_reads_bind .get fun q => .of_reads_bind (.need _ _) fun table => ?_
    exact .asCompoundEdit (detachTable_ordinary id).steady _
  refine Follows.of_reads_bind .get fun q => ?_
  split
  · exact .of_reads_bind (.refuse _) fun _ => hbody
  · exact hbody

theorem reset_follows (ids : BuiltinIds) : Follows (reset ids) fun depth => depth :=
  .asCompoundEdit (startOver_steady ids) _

/-- **The step of a log.** Every edit goes from moment to moment, whether it is made or refused, and
only two of them change how many compound edits are open. -/
theorem change_follows (e : Edit) : Follows e.change e.level := by
  -- what an edit returns does not matter
  cases e
  case startCompoundEdit message => exact .map (startCompoundEdit_follows message) _
  case endCompoundEdit => exact .map endCompoundEdit_follows _
  case removeTable id => exact .map (removeTable_follows id) _
  case removeItem id => exact .map (removeItem_follows id) _
  case reset ids => exact .map (reset_follows ids) _
  -- the others are steady, even those about the text
  case defineOverride text => exact .map (.of_steady (defineOverride_steady text)) _
  case clearOverride => exact .map (.of_steady (setSetting_steady _ _ _ _ fun _ => rfl)) _
  all_goals exact .of_steady (Edit.change_ordinary rfl).steady

end Query

end VisualQuery
