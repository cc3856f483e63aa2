import VisualQuery.Query.Compound

/-!
# What a change comes to

Each building block of a change has one equation for the outcome it comes to. Outcomes are put
together by `bind_of_ok`, `bind_of_silent` and `bind_of_error`: a step that ends with a value is
followed by the rest at the query it reached, and a refusal is the end. For a cascade of changes,
where the log does not matter, `Reaches` only says with which value and at which query it ends.

Three outcomes come up again and again and have names: nothing happened (`Outcome.silent`), the
change was refused (`Outcome.refused`), and one event was announced (`Outcome.announced`). An
announcement leaves the query as it is but for the mark of an open compound edit (`Query.noted`).
Where it depends on the query whether something is announced, the mark does too (`Query.notedIf`).
-/

namespace VisualQuery

namespace Query

/-- The query with the open compound edit marked, if there is one and `b` is set. -/
def notedIf (b : Bool) (q : Query) : Query :=
  { q with pending := q.pending || (b && decide (0 < q.compoundDepth)) }

/-- The query once a change was announced: an open compound edit is marked. -/
def noted (q : Query) : Query := q.notedIf true

@[simp] theorem notedIf_false (q : Query) : q.notedIf false = q := by
  have hmark : ∀ b d : Bool, (b || (false && d)) = b := by decide
  exact congrArg (fun pending => { q with pending }) (hmark _ _)

@[simp] theorem notedIf_notedIf (a b : Bool) (q : Query) :
    (q.notedIf a).notedIf b = q.notedIf (a || b) := by
  have hmark : ∀ p a b d : Bool, ((p || (a && d)) || (b && d)) = (p || ((a || b) && d)) := by decide
  exact congrArg (fun pending => { q with pending }) (hmark _ _ _ _)

/-- Earlier marks do not matter once a change is announced. -/
@[simp] theorem noted_notedIf (b : Bool) (q : Query) : (q.notedIf b).noted = q.noted := by
  rw [noted, notedIf_notedIf, Bool.or_true, noted]

end Query

namespace Outcome

variable {α : Type}

/-- The change ended with a value and was not announced. -/
def silent (a : α) (q : Query) : Outcome α := ⟨.ok a, q, []⟩

/-- The change was refused before anything was announced. -/
def refused (e : QueryError) (q : Query) : Outcome α := ⟨.error e, q, []⟩

/-- The change ended with a value, and one event was announced. -/
def announced (a : α) (q : Query) (e : Event) : Outcome α := ⟨.ok a, q.noted, [⟨e, q.noted⟩]⟩

end Outcome

namespace Change

variable {α β : Type} {m : Change α} {f : α → Change β} {q q' : Query} {log : List Announcement}

/-! ### One step -/

theorem announce_apply {e : Event} (he : e.isMarker = false) (q : Query) :
    announce e q = .announced () q e := by
  have hnoted : (if 0 < q.compoundDepth ∧ e.isMarker = false then { q with pending := true }
      else q) = q.noted := by
    rw [Query.noted, Query.notedIf, Bool.true_and]
    by_cases hd : 0 < q.compoundDepth
    · rw [if_pos ⟨hd, he⟩, decide_eq_true hd, Bool.or_true]
    · rw [if_neg fun h => hd h.1, decide_eq_false hd, Bool.or_false]
  rw [Outcome.announced, ← hnoted]
  rfl

/-- A marker announces no change. -/
theorem announce_marker {e : Event} (he : e.isMarker = true) (q : Query) :
    announce e q = ⟨.ok (), q, [⟨e, q⟩]⟩ := by
  rw [announce, he, if_neg fun h => Bool.noConfusion h.2]

theorem need_some (e : QueryError) (a : α) (q : Query) : need e (some a) q = .silent a q := rfl

theorem need_none (e : QueryError) (q : Query) : (need e none : Change α) q = .refused e q := rfl

theorem attempt_apply (m : Change α) (q : Query) :
    attempt m q = ⟨.ok (m q).result, (m q).query, (m q).log⟩ := rfl

/-! ### One step after another -/

theorem bind_of_ok {a : α} (h : m q = ⟨.ok a, q', log⟩) :
    (m >>= f) q = ⟨(f a q').result, (f a q').query, log ++ (f a q').log⟩ := by
  rw [bind_apply, h]

/-- A step that announces nothing leaves the rest as it is. -/
theorem bind_of_silent {a : α} (h : m q = .silent a q') : (m >>= f) q = f a q' :=
  bind_of_ok h

theorem bind_of_error {e : QueryError} (h : m q = ⟨.error e, q', log⟩) :
    (m >>= f) q = ⟨.error e, q', log⟩ := by
  rw [bind_apply, h]

theorem bind_of_refused {e : QueryError} (h : m q = .refused e q') :
    (m >>= f) q = .refused e q' := bind_of_error h

theorem get_bind (f : Query → Change β) (q : Query) : (get >>= f) q = f q q := bind_of_silent rfl

theorem modify_bind (g : Query → Query) (f : Unit → Change β) (q : Query) :
    (modify g >>= f) q = f () (g q) := bind_of_silent rfl

theorem map_apply (g : α → β) (m : Change α) (q : Query) :
    (g <$> m) q = ⟨(m q).result.map g, (m q).query, (m q).log⟩ := by
  change (m >>= fun a => pure (g a)) q = _
  cases h : m q with
  | mk result q' log =>
    cases result with
    | error e => exact bind_of_error h
    | ok a =>
      rw [bind_of_ok h, pure_apply, List.append_nil]
      rfl

theorem map_query (g : α → β) (m : Change α) (q : Query) :
    ((g <$> m) q).query = (m q).query := by
  rw [map_apply]

/-- Telling the listeners and returning a value. -/
theorem announce_return {e : Event} (he : e.isMarker = false) (a : α) (q : Query) :
    (do announce e; return a : Change α) q = .announced a q e :=
  bind_of_ok (announce_apply he q)

/-! ### Where a change ends -/

/-- The change ends with a value, at a query; what is announced on the way is left open. -/
def Reaches (m : Change α) (q : Query) (a : α) (q' : Query) : Prop :=
  (m q).result = .ok a ∧ (m q).query = q'

namespace Reaches

variable {a : α} {b : β} {q'' : Query}

theorem bind (hm : Reaches m q a q') (hf : Reaches (f a) q' b q'') : Reaches (m >>= f) q b q'' := by
  obtain ⟨hresult, rfl⟩ := hm
  cases ho : m q with
  | mk result q₁ log =>
    rw [ho] at hresult hf
    cases hresult
    rw [Reaches, bind_of_ok ho]
    exact hf

theorem of_silent (h : m q = .silent a q') : Reaches m q a q' := by
  rw [Reaches, h]
  exact ⟨rfl, rfl⟩

theorem of_announced {e : Event} (h : m q = .announced a q' e) : Reaches m q a q'.noted := by
  rw [Reaches, h]
  exact ⟨rfl, rfl⟩

theorem pure (a : α) (q : Query) : Reaches (pure a) q a q := ⟨rfl, rfl⟩

theorem get (q : Query) : Reaches get q q q := ⟨rfl, rfl⟩

theorem modify (g : Query → Query) (q : Query) : Reaches (modify g) q () (g q) := ⟨rfl, rfl⟩

theorem need (e : QueryError) (a : α) (q : Query) : Reaches (need e (some a)) q a q := ⟨rfl, rfl⟩

theorem announce {e : Event} (he : e.isMarker = false) (q : Query) :
    Reaches (announce e) q () q.noted := of_announced (announce_apply he q)

/-- Several events leave the mark that one event leaves. -/
theorem announceAll {es : List Event} (hes : ∀ e ∈ es, e.isMarker = false) (q : Query) :
    Reaches (announceAll es) q () (q.notedIf (!es.isEmpty)) := by
  induction es generalizing q with
  | nil => exact ⟨rfl, q.notedIf_false.symm⟩
  | cons e rest ih =>
    have hrest := ih (fun e he => hes e (List.mem_cons_of_mem _ he)) q.noted
    rw [Query.noted, Query.notedIf_notedIf] at hrest
    exact (announce (hes e List.mem_cons_self) q).bind hrest

end Reaches

end Change

/-! ### Compound edits -/

namespace Query

open Change

/-- The query inside a compound edit that was just started. -/
def opened (message : String) (q : Query) : Query :=
  if q.compoundDepth = 0 then
    { q with compoundDepth := 1, compoundMessage := message, pending := false }
  else { q with compoundDepth := q.compoundDepth + 1 }

/-- The query behind a compound edit. -/
def closed (q : Query) : Query :=
  if q.compoundDepth ≤ 1 then
    { q with compoundDepth := 0, compoundMessage := "", pending := false }
  else { q with compoundDepth := q.compoundDepth - 1 }

theorem startCompoundEdit_apply (message : String) (q : Query) :
    startCompoundEdit message q = ⟨.ok (), q.opened message,
      if q.compoundDepth = 0 then [⟨.compoundStarted message, q.opened message⟩] else []⟩ := by
  rw [startCompoundEdit, get_bind, opened]
  split
  · rw [modify_bind, announce_marker rfl]
  · rfl

theorem finishCompoundEdit_reaches (q : Query) : Reaches finishCompoundEdit q () q.closed := by
  rw [Reaches, finishCompoundEdit, modify_bind, get_bind, closed]
  by_cases hd : q.compoundDepth ≤ 1
  · have hzero : q.compoundDepth - 1 = 0 := by omega
    rw [if_pos hd, if_pos hzero, modify_bind, bind_of_ok (announce_marker rfl _), get_bind,
      modify_bind, hzero]
    -- the last event is a marker or missing
    cases q.pending <;> exact ⟨rfl, rfl⟩
  · rw [if_neg hd, if_neg (show ¬ q.compoundDepth - 1 = 0 by omega)]
    exact ⟨rfl, rfl⟩

/-- A change that is made as a compound edit ends as it would by itself. -/
theorem asCompoundEdit_reaches {α : Type} {message : String} {m : Change α} {a : α} {q' : Query}
    (h : Reaches m (q.opened message) a q') : Reaches (asCompoundEdit message m) q a q'.closed := by
  obtain ⟨hresult, rfl⟩ := h
  have hstart : Reaches (startCompoundEdit message) q () (q.opened message) := by
    rw [Reaches, startCompoundEdit_apply]
    exact ⟨rfl, rfl⟩
  have hattempt : Reaches (attempt m) (q.opened message) (.ok a) (m (q.opened message)).query := by
    rw [Reaches, attempt_apply, hresult]
    exact ⟨rfl, rfl⟩
  exact hstart.bind (hattempt.bind ((finishCompoundEdit_reaches _).bind ⟨rfl, rfl⟩))

end Query

end VisualQuery
