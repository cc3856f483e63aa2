import VisualQuery.Proofs.Document.Load
import VisualQuery.Proofs.Query.Blind
import VisualQuery.Proofs.Query.Duplicate

/-!
# A text in place of the statement stays there

Once the user has put a text in place of the statement, a query is asked for its statement and gives
the text, until the text is taken away. A query goes on in stages (`Query.Stage`): it is edited, a
copy takes its place, or it is saved and loaded again, under its identities or under fresh ones. No
stage but the three edits that are about the text looks at it (`Query.Stage.apply_overlaid`), which
says two things at once. The text is the same behind the stage, and everything else is what it would
be under any other text, or under none; so the statement that is covered by the text goes on as if
nothing covered it.

Loading could fail, and then there would be no statement to speak of. It does not fail for a query
with the invariant (`Query.Coherent.follow_ok`), and every stage keeps the invariant. For this the
identities that a copy draws have to differ from each other, and a table that is added must not have
two items with one identity (`Query.Stage.Fits`).
-/

namespace VisualQuery

namespace Query

open Document (ofQuery)

/-! ### Stages -/

/-- How a query goes on. Where fresh identities are drawn, their supply is part of the stage. -/
inductive Stage where
  /-- It is edited; a refused edit is a stage as well. -/
  | edit (e : Edit)
  /-- A copy takes its place. -/
  | duplicate (ids : IdSupply)
  /-- It is saved as a document and loaded from it. -/
  | reload (mode : IdentityMode) (ids : IdSupply)

/-- What a stage makes of a query. -/
def Stage.apply : Stage → Query → Except DocumentError Query
  | .edit e, q => .ok (e.change q).query
  | .duplicate ids, q => .ok (q.duplicate.run ids).1
  | .reload mode ids, q => ((Document.load mode (ofQuery q)).run ids).1

/-- What stages make of a query, one after the other; a document that is not accepted is the end. -/
def follow : List Stage → Query → Except DocumentError Query
  | [], q => .ok q
  | stage :: rest, q => (stage.apply q).bind (follow rest)

/-- Whether a stage has nothing to do with the text in place of the statement. -/
def Stage.leavesOverride : Stage → Bool
  | .edit e => e.leavesOverride
  | _ => true

/-- What is asked of the caller of a stage: an edit is well-formed, and the identities that a copy
draws differ from each other. -/
def Stage.Fits : Stage → Query → Prop
  | .edit e, _ => e.WellFormed
  | .duplicate ids, q => ids.Fresh (ofQuery q).identities.length
  | .reload .preserve _, _ => True
  | .reload .regenerate ids, q => ids.Fresh (ofQuery q).identities.length

/-- What is asked of the caller of several stages. -/
def FitsAll : List Stage → Query → Prop
  | [], _ => True
  | stage :: rest, q => stage.Fits q ∧ ∀ r, stage.apply q = .ok r → FitsAll rest r

/-! ### Saving and loading under another text -/

variable {q r : Query}

theorem duplicate_overlaid (text : Option String) (mark : Bool) (q : Query) (ids : IdSupply) :
    ((q.overlaid text mark).duplicate.run ids).1 =
      (q.duplicate.run ids).1.overlaid text false := rfl

/-- What is loaded differs in the text if the documents do, and in nothing else. -/
theorem toQuery_overlaid (h : (ofQuery q).toQuery = .ok r) (text : Option String) (mark : Bool) :
    (ofQuery (q.overlaid text mark)).toQuery = .ok (r.overlaid text false) := by
  obtain ⟨hkind, htables, hcount, joins, hjoins, hselection, hsort, rfl⟩ :=
    Document.toQuery_eq_ok_iff_steps.mp h
  -- none of the checks asks for the text
  exact Document.toQuery_eq_ok_iff_steps.mpr
    ⟨hkind, htables, hcount, joins, hjoins, hselection, hsort, rfl⟩

theorem apply_preserve (ids : IdSupply) (q : Query) :
    (Stage.reload .preserve ids).apply q = (ofQuery q).toQuery := by
  show ((Document.load .preserve (ofQuery q)).run ids).1 = _
  unfold Document.load
  cases (ofQuery q).toQuery <;> rfl

theorem apply_regenerate (ids : IdSupply) (q : Query) :
    (Stage.reload .regenerate ids).apply q =
      (ofQuery q).toQuery.map fun r => (r.duplicate.run ids).1 := by
  show ((Document.load .regenerate (ofQuery q)).run ids).1 = _
  unfold Document.load
  cases (ofQuery q).toQuery <;> rfl

/-! ### No stage looks at the text -/

/-- **A stage does the same under another text.** -/
theorem Stage.apply_overlaid {stage : Stage} (hstage : stage.leavesOverride = true)
    (h : stage.apply q = .ok r) (text : Option String) (mark : Bool) :
    ∃ mark', stage.apply (q.overlaid text mark) = .ok (r.overlaid text mark') := by
  match stage with
  -- an edit that leaves the override alone does not read it either
  | .edit e =>
    obtain ⟨mark', -, hquery⟩ := Edit.change_blind hstage q text mark
    cases Except.ok.inj h
    exact ⟨mark', congrArg Except.ok hquery⟩
  -- a copy starts unmarked, whatever the mark of the original was
  | .duplicate ids =>
    cases Except.ok.inj h
    exact ⟨false, congrArg Except.ok (duplicate_overlaid text mark q ids)⟩
  | .reload .preserve ids =>
    rw [apply_preserve] at h ⊢
    exact ⟨false, toQuery_overlaid h text mark⟩
  -- a reload under new identifiers is a load followed by a copy
  | .reload .regenerate ids =>
    rw [apply_regenerate] at h ⊢
    cases hload : (ofQuery q).toQuery with
    | error e =>
      rw [hload] at h
      exact nomatch h
    | ok loaded =>
      rw [hload] at h
      cases Except.ok.inj h
      rw [toQuery_overlaid hload text mark]
      exact ⟨false, congrArg Except.ok (duplicate_overlaid text false loaded ids)⟩

/-- **Stages do the same under another text.** -/
theorem follow_overlaid {stages : List Stage}
    (hstages : ∀ stage ∈ stages, stage.leavesOverride = true) (h : follow stages q = .ok r)
    (text : Option String) (mark : Bool) :
    ∃ mark', follow stages (q.overlaid text mark) = .ok (r.overlaid text mark') := by
  -- the mark is generalized: a stage may clear it, while the text stays
  induction stages generalizing q mark with
  | nil =>
    cases Except.ok.inj h
    exact ⟨mark, rfl⟩
  | cons stage rest ih =>
    rw [List.forall_mem_cons] at hstages
    rw [follow] at h ⊢
    cases hfirst : stage.apply q with
    | error e =>
      rw [hfirst] at h
      exact nomatch h
    | ok next =>
      rw [hfirst] at h
      obtain ⟨mark', hfirst'⟩ := Stage.apply_overlaid hstages.1 hfirst text mark
      rw [hfirst']
      exact ih hstages.2 h mark'

/-- **Stages leave the text alone**, which is to do the same under the text that is there. -/
theorem follow_userOverride {stages : List Stage}
    (hstages : ∀ stage ∈ stages, stage.leavesOverride = true) (h : follow stages q = .ok r) :
    r.userOverride = q.userOverride := by
  obtain ⟨mark, hsame⟩ := follow_overlaid hstages h q.userOverride q.pending
  rw [q.overlaid_self, h] at hsame
  rw [Except.ok.inj hsame]
  rfl

/-! ### No stage fails -/

namespace Coherent

/-- A copy has the invariant, as long as the identities that are drawn differ. -/
theorem duplicate (h : q.Coherent) {ids : IdSupply}
    (hids : ids.Fresh (ofQuery q).identities.length) : (q.duplicate.run ids).1.Coherent := by
  obtain ⟨ρ, hdraws⟩ := Relabeling.exists_draws h.identities_nodup hids
  rw [h.duplicate_run hdraws]
  exact h.relabel ρ

/-- **A stage succeeds and keeps the invariant.** -/
theorem apply_ok (h : q.Coherent) {stage : Stage} (hstage : stage.Fits q) :
    ∃ r, stage.apply q = .ok r ∧ r.Coherent := by
  match stage with
  | .edit e => exact ⟨_, rfl, h.change hstage⟩
  | .duplicate ids => exact ⟨_, rfl, h.duplicate hstage⟩
  | .reload .preserve ids =>
    obtain ⟨loaded, hload, hcoherent, -⟩ := h.toQuery_ofQuery
    exact ⟨loaded, (apply_preserve ids q).trans hload, hcoherent⟩
  | .reload .regenerate ids =>
    obtain ⟨loaded, hload, hcoherent, hsaved⟩ := h.toQuery_ofQuery
    -- as many identities are drawn for the loaded query as for the one that was saved
    have hids : ids.Fresh (ofQuery loaded).identities.length := by
      rw [hsaved]
      exact hstage
    refine ⟨(loaded.duplicate.run ids).1, ?_, hcoherent.duplicate hids⟩
    rw [apply_regenerate, hload]
    rfl

/-- **Stages succeed and keep the invariant.** -/
theorem follow_ok (h : q.Coherent) {stages : List Stage} (hstages : FitsAll stages q) :
    ∃ r, follow stages q = .ok r ∧ r.Coherent := by
  induction stages generalizing q with
  | nil => exact ⟨q, rfl, h⟩
  | cons stage rest ih =>
    obtain ⟨next, hfirst, hnext⟩ := h.apply_ok hstages.1
    rw [follow, hfirst]
    exact ih hnext (hstages.2 next hfirst)

end Coherent

/-! ### The text that is defined -/

/-- Defining a text puts it in place of the statement, unless it is the statement. -/
theorem change_defineOverride (text : String) (q : Query) :
    ∃ mark, ((Edit.defineOverride text).change q).query =
      q.overlaid (if text = q.generateStructural q.style then none else some text) mark := by
  have hset : ∀ new : Option String, ∃ mark, (setSetting .userOverride (·.userOverride)
      (fun userOverride q => { q with userOverride }) .text new q).query = q.overlaid new mark :=
    fun new => ⟨_, (setSetting_reaches .userOverride .text new rfl).2⟩
  rw [Edit.change, Change.map_query, defineOverride, Change.get_bind]
  -- an override equal to the text of the structure is dropped
  by_cases hsame : text = q.generateStructural q.style
  · rw [if_pos hsame, if_pos hsame]
    exact hset none
  · rw [if_neg hsame, if_neg hsame]
    exact hset (some text)

/-- **A text in place of the statement is what the query gives from then on.** Right after a text is
defined, the query gives the text. This holds as well if the text is the statement, which then
stands in its own place. Otherwise, whatever stages follow, but for edits that are about the text:

* the stages succeed, as long as what is asked of the caller is fulfilled;
* the query they lead to gives the text, in every style;
* the same stages from the query with any other text, or with none, lead to a query with the same
  style and the same statement under its text. -/
theorem Reachable.generate_defined (hq : q.Reachable) (text : String)
    (hr : ((Edit.defineOverride text).change q).query = r) :
    r.generate r.style = text ∧
      (text ≠ q.generateStructural q.style → ∀ stages : List Stage,
        (∀ stage ∈ stages, stage.leavesOverride = true) →
          (FitsAll stages r → ∃ last, follow stages r = .ok last) ∧
          ∀ last, follow stages r = .ok last →
            (∀ style, last.generate style = text) ∧
            ∀ other, ∃ last', follow stages { q with userOverride := other } = .ok last' ∧
              last'.style = last.style ∧
              ∀ style, last.generateStructural style = last'.generateStructural style) := by
  have hcoherent : r.Coherent := hr ▸ hq.coherent.change (e := .defineOverride text) trivial
  obtain ⟨mark, hdefined⟩ := change_defineOverride text q
  rw [hr] at hdefined
  by_cases hsame : text = q.generateStructural q.style
  · rw [if_pos hsame] at hdefined
    refine ⟨?_, fun hnew => absurd hsame hnew⟩
    calc r.generate r.style
        = (q.overlaid none mark).generateStructural q.style := by rw [hdefined]; rfl
      _ = q.generateStructural q.style := generateStructural_overlaid none mark q q.style
      _ = text := hsame.symm
  · rw [if_neg hsame] at hdefined
    have htext : r.userOverride = some text := congrArg userOverride hdefined
    have hgives : ∀ last : Query, last.userOverride = some text →
        ∀ style, last.generate style = text := by
      intro last hlast style
      rw [generate, hlast]
      rfl
    refine ⟨hgives r htext r.style, fun _ stages hstages => ⟨fun hfits => ?_, fun last hlast => ?_⟩⟩
    · obtain ⟨last, hlast, -⟩ := hcoherent.follow_ok hfits
      exact ⟨last, hlast⟩
    · refine ⟨hgives last ((follow_userOverride hstages hlast).trans htext), fun other => ?_⟩
      -- the query that the other stages start from is the one with the text under another text
      have hother : r.overlaid other q.pending = { q with userOverride := other } := by
        rw [hdefined]
        rfl
      obtain ⟨mark', hlast'⟩ := follow_overlaid hstages hlast other q.pending
      rw [hother] at hlast'
      refine ⟨_, hlast', rfl, fun style => ?_⟩
      exact (generateStructural_overlaid other mark' last style).symm

/-- On a new query the text stays while a table with a selected column is added, a copy is made,
a data source is attached and the copy is loaded from its document under fresh identities. -/
theorem generate_defined_new :
    let q := ((Query.new "sample").run (.after 0)).1
    let r := ((Edit.defineOverride "SELECT 1").change q).query
    let column := { Item.column ⟨.ofNat 11⟩ "number" with selected := true }
    let stages : List Stage :=
      [.edit (.addTable { Container.table ⟨.ofNat 10⟩ "orders" with items := [column] }),
        .duplicate (.after 100), .edit (.setSource (some (.fixed (some "mysql") none))),
        .reload .regenerate (.after 200)]
    q.Reachable ∧ "SELECT 1" ≠ q.generateStructural q.style ∧
      (∀ stage ∈ stages, stage.leavesOverride = true) ∧ FitsAll stages r ∧
      ∃ last, follow stages r = .ok last ∧ last.generate last.style = "SELECT 1" := by
  intro q r column stages
  have hq : q.Reachable := .new "sample" IdSupply.after_zero_fresh
  have hnew : "SELECT 1" ≠ q.generateStructural q.style := by decide
  have hleaves : ∀ stage ∈ stages, stage.leavesOverride = true := by decide
  -- the fresh identifiers are given so far apart that no stage meets another one's
  have hfits : FitsAll stages r := by
    refine ⟨List.nodup_singleton _, fun _ ha => ?_⟩
    cases Except.ok.inj ha
    refine ⟨?_, fun _ hb => ⟨trivial, fun _ hc => ?_⟩⟩
    · unfold Stage.Fits IdSupply.Fresh
      decide +kernel
    cases Except.ok.inj hb
    cases Except.ok.inj hc
    refine ⟨?_, fun _ _ => trivial⟩
    unfold Stage.Fits IdSupply.Fresh
    decide +kernel
  obtain ⟨-, hstays⟩ := hq.generate_defined "SELECT 1" (r := r) rfl
  obtain ⟨hok, hgives⟩ := hstays hnew stages hleaves
  obtain ⟨last, hlast⟩ := hok hfits
  exact ⟨hq, hnew, hleaves, hfits, last, hlast, (hgives last hlast).1 last.style⟩

end Query

end VisualQuery
