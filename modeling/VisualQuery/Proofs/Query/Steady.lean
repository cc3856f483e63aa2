import VisualQuery.Proofs.Query.Ordinary

/-!
# Changes that leave the compound edit alone

Three fields of a query belong to the compound edit that is open (`Query.compound`), and a change
that is announced marks it. Most changes do nothing else to these fields, and announce nothing but
changes: they are steady (`Change.Steady`), at any query and whether they are refused or not. All
ordinary changes are (`Change.Ordinary.steady`), and so are those about the text in place of the
statement.

The exceptions are the changes that open and close compound edits, and those that are made as one.
What they do in between is steady again.
-/

namespace VisualQuery

open Change

namespace Query

/-! ### The fields of a compound edit -/

/-- What a query knows about its compound edit: how many are open inside one another, the message of
the outermost one, and whether it is marked. -/
def compound (q : Query) : Nat × String × Bool := (q.compoundDepth, q.compoundMessage, q.pending)

theorem compound_eq_iff {q q' : Query} :
    q'.compound = q.compound ↔ q'.compoundDepth = q.compoundDepth ∧
      q'.compoundMessage = q.compoundMessage ∧ q'.pending = q.pending := by
  rw [compound, compound, Prod.mk.injEq, Prod.mk.injEq]

theorem compound_notedIf {q q' : Query} (h : q'.compound = q.compound) (b : Bool) :
    (q'.notedIf b).compound = (q.notedIf b).compound := by
  obtain ⟨hdepth, hmessage, hpending⟩ := compound_eq_iff.mp h
  rw [compound, compound, notedIf, notedIf, hdepth, hmessage, hpending]

/-- The mark once a change was announced, and without one. -/
theorem pending_notedIf (b : Bool) (q : Query) :
    (q.notedIf b).pending = (q.pending || (b && decide (0 < q.compoundDepth))) := rfl

end Query

/-! ### Changes that leave the compound edit alone -/

namespace Change

variable {α β : Type} {m : Change α} {f : α → Change β}

/-- The change announces no markers and leaves the compound edit alone, but for the mark that an
announcement sets. -/
structure SteadyAt (q : Query) (o : Outcome α) : Prop where
  /-- Every announcement is about a change, and is made with the mark set. -/
  announced : ∀ a ∈ o.log, a.event.isMarker = false ∧ a.query.compound = q.noted.compound
  /-- The mark is set in the end if something was announced. -/
  reached : o.query.compound = (q.notedIf (!o.log.isEmpty)).compound

/-- The change is steady wherever it is made. -/
def Steady (m : Change α) : Prop := ∀ q, SteadyAt q (m q)

namespace Steady

theorem of_reads (h : Reads m) : Steady m := by
  intro q
  obtain ⟨hquery, hlog⟩ := h q
  refine ⟨fun a ha => ?_, ?_⟩
  · rw [hlog] at ha
    exact absurd ha List.not_mem_nil
  · rw [hquery, hlog]
    exact congrArg Query.compound q.notedIf_false.symm

theorem pure (a : α) : Steady (pure a) := of_reads (.pure a)

theorem get : Steady get := of_reads .get

theorem refuse (e : QueryError) : Steady (refuse e : Change α) := of_reads (.refuse e)

theorem modify {g : Query → Query} (hg : ∀ q, (g q).compound = q.compound) :
    Steady (modify g) := by
  intro q
  refine ⟨fun a ha => absurd ha List.not_mem_nil, ?_⟩
  exact (hg q).trans (congrArg Query.compound q.notedIf_false.symm)

theorem announce {e : Event} (he : e.isMarker = false) : Steady (announce e) := by
  intro q
  rw [announce_apply he]
  refine ⟨fun a ha => ?_, rfl⟩
  rw [List.mem_singleton.mp ha]
  exact ⟨he, rfl⟩

theorem attempt (hm : Steady m) : Steady (attempt m) := fun q => ⟨(hm q).announced, (hm q).reached⟩

theorem bind (hm : Steady m) (hf : ∀ a, Steady (f a)) : Steady (m >>= f) := by
  intro q
  have hfirst := hm q
  cases ho : m q with
  | mk result q₁ log =>
    rw [ho] at hfirst
    cases result with
    | error e =>
      rw [bind_of_error ho]
      exact ⟨hfirst.announced, hfirst.reached⟩
    | ok a =>
      -- the second part starts where the first part has set the mark, or not
      have hsecond := hf a q₁
      rw [bind_of_ok ho]
      refine ⟨fun b hb => ?_, ?_⟩
      · rcases List.mem_append.mp hb with hb | hb
        · exact hfirst.announced b hb
        · obtain ⟨hmarker, hcompound⟩ := hsecond.announced b hb
          refine ⟨hmarker, hcompound.trans ?_⟩
          rw [Query.noted, Query.compound_notedIf hfirst.reached, ← Query.noted,
            Query.noted_notedIf]
      · have hempty : (log ++ (f a q₁).log).isEmpty = (log.isEmpty && (f a q₁).log.isEmpty) := by
          cases log <;> rfl
        rw [hsecond.reached, Query.compound_notedIf hfirst.reached, Query.notedIf_notedIf, hempty,
          Bool.not_and]

theorem ite {c : Prop} [Decidable c] {m m' : Change α} (hm : Steady m) (hm' : Steady m') :
    Steady (if c then m else m') := by
  split
  · exact hm
  · exact hm'

theorem write {g : Query → Query} (hg : ∀ q, (g q).compound = q.compound) {e : Event}
    (he : e.isMarker = false) : Steady (do Change.modify g; Change.announce e) :=
  (modify hg).bind fun _ => announce he

end Steady

/-- **Ordinary changes are steady.** -/
theorem Ordinary.steady (h : Ordinary m) : Steady m := by
  induction h with
  | pure a => exact .pure a
  | refuse e => exact .refuse e
  | look _ _ ih => exact Steady.get.bind ih
  | @modify g hg =>
    refine .modify fun q => ?_
    -- the compound edit is a part of the cover
    obtain ⟨-, hdepth, hmessage, hmark⟩ := Query.Cover.mk.inj (hg.cover_eq q)
    exact Query.compound_eq_iff.mpr ⟨hdepth, hmessage, hmark⟩
  | announce he => exact .announce he
  | attempt _ ih => exact ih.attempt
  | bind _ _ ihm ihf => exact ihm.bind ihf

end Change

namespace Query

/-! ### The text in place of the statement -/

theorem setSetting_steady {β : Type} [DecidableEq β] (property : Property) (read : Query → β)
    {write : β → Query → Query} (show' : β → PropertyValue) (new : β)
    (hwrite : ∀ q, (write new q).compound = q.compound) :
    Steady (setSetting property read write show' new) := by
  rw [setSetting]
  exact Steady.get.bind fun q => .ite (.pure ()) (.write hwrite rfl)

theorem defineOverride_steady (text : String) : Steady (defineOverride text) := by
  rw [defineOverride]
  refine Steady.get.bind fun q => .ite ?_ ?_
  all_goals
    refine setSetting_steady _ _ _ _ fun _ => ?_
    rfl

/-! ### Starting over -/

theorem clearSettings_steady : Steady clearSettings := by
  refine (setSetting_steady _ _ _ _ fun _ => rfl).bind fun _ => ?_
  refine (setSetting_steady _ _ _ _ fun _ => rfl).bind fun _ => ?_
  refine (setSetting_steady _ _ _ _ fun _ => rfl).bind fun _ => ?_
  exact setSetting_steady _ _ _ _ fun _ => rfl

theorem startOver_steady (ids : BuiltinIds) : Steady (startOver ids) := by
  refine Steady.get.bind fun q => (detachTables_ordinary _).steady.bind fun _ => ?_
  exact (resetConstants_ordinary ids).attempt.steady.bind fun _ => clearSettings_steady

end Query

end VisualQuery
