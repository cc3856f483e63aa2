import VisualQuery.Proofs.Query.Ordinary
import VisualQuery.Sql.Statement

/-!
# Changes that are blind to the text in place of the statement

The text that the user put in place of the statement is read by `generate`, and by the changes that
set it. To every other change it might as well be another text, or none: the change is made or
refused in the same way, and the query it leads to differs in the text as before, and in nothing
else but the mark of an open compound edit (`Change.Blind`).

The mark is left open because it remembers that a change was announced, and defining a text is one.
Nothing depends on it but whether an outermost compound edit ends with an offer to run the query.

Ordinary changes are blind to the text (`Change.Ordinary.blind`). The changes that open and close
compound edits look at how many are open and at the mark, but not at the text, so they are blind as
well, and with them those that are made as a compound edit.
-/

namespace VisualQuery

open Change

namespace Query

/-- The query with another text, or none, in place of the statement, and with the mark of an open
compound edit set or not. -/
def overlaid (text : Option String) (mark : Bool) (q : Query) : Query :=
  { q with userOverride := text, pending := mark }

/-- A query under its own text is itself. -/
theorem overlaid_self (q : Query) : q.overlaid q.userOverride q.pending = q := rfl

theorem joinedTables_overlaid (text : Option String) (mark : Bool) (q : Query) (style : Style)
    (earlier : List ContainerId) (previous : ContainerId) (rest : List ContainerId) :
    (q.overlaid text mark).joinedTables style earlier previous rest =
      q.joinedTables style earlier previous rest := by
  induction rest generalizing earlier previous with
  | nil => rfl
  | cons c rest ih =>
    rw [joinedTables, joinedTables, ih]
    rfl

theorem fromClause?_overlaid (text : Option String) (mark : Bool) (q : Query) (style : Style) :
    (q.overlaid text mark).fromClause? style = q.fromClause? style := by
  have horder : (q.overlaid text mark).finishOrder = q.finishOrder := rfl
  rw [fromClause?, fromClause?, horder]
  cases q.finishOrder with
  | nil => rfl
  | cons c rest =>
    dsimp only
    rw [joinedTables_overlaid]
    rfl

/-- **What the parts of a query give does not depend on the text.** -/
theorem generateStructural_overlaid (text : Option String) (mark : Bool) (q : Query)
    (style : Style) :
    (q.overlaid text mark).generateStructural style = q.generateStructural style := by
  -- no clause reads the override or the mark
  have hstatement : (q.overlaid text mark).statement style = q.statement style :=
    calc (q.overlaid text mark).statement style
        = { q.statement style with tables := (q.overlaid text mark).fromClause? style } := rfl
      _ = q.statement style := by
          rw [fromClause?_overlaid]
          rfl
  rw [generateStructural, structuralTokens, hstatement]
  rfl

end Query

/-! ### Changes that do not look at the text -/

namespace Change

variable {α β : Type} {m : Change α} {f : α → Change β}

/-- Under another text the change comes to the same result, and to the same query under that other
text. -/
def Blind (m : Change α) : Prop :=
  ∀ q text mark, ∃ mark', (m (q.overlaid text mark)).result = (m q).result ∧
    (m (q.overlaid text mark)).query = (m q).query.overlaid text mark'

namespace Blind

theorem pure (a : α) : Blind (pure a) := fun _ _ mark => ⟨mark, rfl, rfl⟩

theorem refuse (e : QueryError) : Blind (refuse e : Change α) :=
  fun _ _ mark => ⟨mark, rfl, rfl⟩

theorem conclude (r : Except QueryError α) : Blind (conclude r) :=
  fun _ _ mark => ⟨mark, rfl, rfl⟩

theorem modify {g : Query → Query}
    (hg : ∀ q text mark, g (q.overlaid text mark) = (g q).overlaid text mark) :
    Blind (modify g) :=
  fun q text mark => ⟨mark, rfl, hg q text mark⟩

theorem announce (e : Event) : Blind (announce e) := by
  intro q text mark
  -- the mark is set in both queries or in none of them
  by_cases hmarked : 0 < q.compoundDepth ∧ e.isMarker = false
  · refine ⟨true, rfl, ?_⟩
    have hmarked' : 0 < (q.overlaid text mark).compoundDepth ∧ e.isMarker = false := hmarked
    rw [Change.announce, Change.announce, if_pos hmarked, if_pos hmarked']
    rfl
  · refine ⟨mark, rfl, ?_⟩
    have hmarked' : ¬ (0 < (q.overlaid text mark).compoundDepth ∧ e.isMarker = false) := hmarked
    rw [Change.announce, Change.announce, if_neg hmarked, if_neg hmarked']

theorem attempt (hm : Blind m) : Blind (attempt m) := by
  intro q text mark
  obtain ⟨mark', hresult, hquery⟩ := hm q text mark
  exact ⟨mark', congrArg Except.ok hresult, hquery⟩

theorem bind (hm : Blind m) (hf : ∀ a, Blind (f a)) : Blind (m >>= f) := by
  intro q text mark
  obtain ⟨mark', hresult, hquery⟩ := hm q text mark
  rw [bind_apply, bind_apply, hresult, hquery]
  cases (m q).result with
  | error e => exact ⟨mark', rfl, rfl⟩
  | ok a => exact hf a (m q).query text mark'

/-- A change may look at the rest of the query. -/
theorem get_bind {f : Query → Change β} (hf : ∀ q, Blind (f q))
    (hsame : ∀ q text mark, f (q.overlaid text mark) = f q) : Blind (get >>= f) := by
  intro q text mark
  rw [Change.get_bind, Change.get_bind, hsame]
  exact hf q q text mark

theorem ite {c : Prop} [Decidable c] {m m' : Change α} (hm : Blind m) (hm' : Blind m') :
    Blind (if c then m else m') := by
  split
  · exact hm
  · exact hm'

theorem map (hm : Blind m) (g : α → β) : Blind (g <$> m) := by
  intro q text mark
  obtain ⟨mark', hresult, hquery⟩ := hm q text mark
  rw [map_apply, map_apply]
  exact ⟨mark', congrArg (Except.map g) hresult, hquery⟩

end Blind

theorem Ordinary.blind (h : Ordinary m) : Blind m := by
  induction h with
  | pure a => exact .pure a
  | refuse e => exact .refuse e
  | look _ hsame ih =>
    refine .get_bind ih fun q text mark => ?_
    exact hsame q ⟨text, q.compoundDepth, q.compoundMessage, mark⟩
  | @modify g hg =>
    refine .modify fun q text mark => ?_
    -- another text makes another cover, of which the rest is kept
    obtain ⟨-, hdepth, hmessage, -⟩ := Query.Cover.mk.inj (hg.cover_eq q)
    let c : Query.Cover := ⟨text, q.compoundDepth, q.compoundMessage, mark⟩
    calc g (q.overlaid text mark)
        = (g q).covered c := hg q c
      _ = (g q).overlaid text mark := by
          show (g q).covered ⟨text, q.compoundDepth, q.compoundMessage, mark⟩ = _
          rw [← hdepth, ← hmessage]
          rfl
  | announce _ => exact .announce _
  | attempt _ ih => exact ih.attempt
  | bind _ _ ihm ihf => exact ihm.bind ihf

end Change

namespace Query

/-! ### Compound edits -/

theorem startCompoundEdit_blind (message : String) : Blind (startCompoundEdit message) := by
  rw [startCompoundEdit]
  refine Blind.get_bind (fun q => ?_) fun _ _ _ => rfl
  refine .ite (fun q text mark => ?_) (.modify fun _ _ _ => rfl)
  -- the mark is taken away where an outermost compound edit starts
  exact ⟨false, rfl, rfl⟩

theorem finishCompoundEdit_blind : Blind finishCompoundEdit := by
  rw [finishCompoundEdit]
  refine (Blind.modify fun _ _ _ => rfl).bind fun _ => Blind.get_bind (fun q => ?_) fun _ _ _ => rfl
  refine .ite ((Blind.modify fun _ _ _ => rfl).bind fun _ => ?_) (.pure ())
  refine (Blind.announce _).bind fun _ => fun q text mark => ⟨false, ?_⟩
  -- the mark decides whether the query is offered to be run, but not which query it is
  have hoffer : ∀ (due : Bool) (q : Query),
      ((if due then announce .canExecute else pure () : Change Unit) q).result = .ok () ∧
        ((if due then announce .canExecute else pure () : Change Unit) q).query = q := by
    intro due q
    cases due with
    | false => exact ⟨rfl, rfl⟩
    | true =>
      rw [if_pos rfl, announce_marker rfl]
      exact ⟨rfl, rfl⟩
  rw [Change.get_bind, Change.get_bind, modify_bind, modify_bind, (hoffer _ _).1, (hoffer _ _).1,
    (hoffer _ _).2, (hoffer _ _).2]
  exact ⟨rfl, rfl⟩

theorem endCompoundEdit_blind : Blind endCompoundEdit := by
  rw [endCompoundEdit]
  refine Blind.get_bind (fun q => .ite ((Blind.refuse _).bind fun _ => ?_) ?_) fun _ _ _ => rfl
  all_goals exact finishCompoundEdit_blind

theorem asCompoundEdit_blind {α : Type} (message : String) {m : Change α} (hm : Blind m) :
    Blind (asCompoundEdit message m) := by
  rw [asCompoundEdit]
  refine (startCompoundEdit_blind message).bind fun _ => hm.attempt.bind fun result => ?_
  exact finishCompoundEdit_blind.bind fun _ => .conclude result

theorem removeItem_blind (id : ItemId) : Blind (removeItem id) := by
  rw [removeItem]
  refine Blind.get_bind (fun q => (Ordinary.need _ _).blind.bind fun item => ?_) fun _ _ _ => rfl
  exact asCompoundEdit_blind _ (detachItem_ordinary id).blind

theorem removeTable_blind (id : ContainerId) : Blind (removeTable id) := by
  rw [removeTable]
  refine Blind.get_bind (fun q => .ite ((Blind.refuse _).bind fun _ => ?_) ?_) fun _ _ _ => rfl
  all_goals
    refine Blind.get_bind (fun q => (Ordinary.need _ _).blind.bind fun table => ?_) fun _ _ _ => rfl
    exact asCompoundEdit_blind _ (detachTable_ordinary id).blind

end Query

/-! ### Edits -/

namespace Edit

/-- Whether an edit has nothing to do with the text in place of the statement: it neither defines a
text nor removes it. -/
def leavesOverride : Edit → Bool
  | .defineOverride _ | .clearOverride | .reset _ => false
  | _ => true

/-- **Every other edit is blind to the text.** -/
theorem change_blind {e : Edit} (he : e.leavesOverride = true) : Blind e.change := by
  -- what an edit returns does not matter
  cases e
  case startCompoundEdit message => exact (Query.startCompoundEdit_blind message).map _
  case endCompoundEdit => exact Query.endCompoundEdit_blind.map _
  case removeTable id => exact (Query.removeTable_blind id).map _
  case removeItem id => exact (Query.removeItem_blind id).map _
  case defineOverride | clearOverride | reset => exact absurd he Bool.false_ne_true
  all_goals exact (change_ordinary rfl).blind

end Edit

end VisualQuery
