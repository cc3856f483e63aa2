import VisualQuery.Proofs.Sql.JoinConditions

/-!
# Keywords of joins

The outer flag at an end of a join says that all rows of its container are kept, and which keyword
says this of the tables on its left and right is a matter of SQL (`keywordKeeping`). The keyword
between two tables that are named one after the other is that of their first join, whose left end it
takes for the table on the left. So it keeps the right rows if the join leads from the first table
to the second one (`JoinRegistry.Coherent.keyword_eq`).

Some join between the two does: in the order of the search, tables that stand next to each other are
joined in their order (`JoinRegistry.leads_next`). But it need not be the join that was registered
first. Where two tables are joined in both directions and the first of these joins leads back, the
keyword keeps the rows of the other table (`Query.Reachable.joinKind_next`).
-/

namespace VisualQuery

/-- The keyword between two tables that keeps all rows of those of them that are outer. -/
def keywordKeeping : (left right : Bool) → String
  | true, true => "FULL OUTER JOIN"
  | true, false => "LEFT OUTER JOIN"
  | false, true => "RIGHT OUTER JOIN"
  | false, false => "INNER JOIN"

/-- The keyword is the same with the tables exchanged if the flags are. -/
theorem keywordKeeping_swap_iff {a b : Bool} : keywordKeeping b a = keywordKeeping a b ↔ a = b := by
  revert a b
  decide

/-- A join has the keyword that keeps the rows of its outer ends. -/
theorem Join.keyword_kind (j : Join) :
    j.kind.keyword = keywordKeeping j.left.outer j.right.outer := by
  rw [kind]
  cases j.left.outer <;> cases j.right.outer <;> rfl

namespace JoinRegistry

variable {r : JoinRegistry} {tables : List ContainerId} {p t : ContainerId}

/-- Two tables that stand next to each other in the order and are joined are joined in their
order. -/
theorem leads_next {i : Nat} (hp : (finishOrder tables r)[i]? = some p)
    (ht : (finishOrder tables r)[i + 1]? = some t) {j : Join} (hj : j ∈ r.inOrder)
    (hconnects : j.connects p t = true) : r.Leads tables p t := by
  have hpt : p ∈ tables := mem_finishOrder.mp (List.mem_of_getElem? hp)
  have htt : t ∈ tables := mem_finishOrder.mp (List.mem_of_getElem? ht)
  rcases Join.connects_iff.mp hconnects with ⟨hleft, hright⟩ | ⟨hleft, hright⟩
  · exact ⟨hpt, htt, j, hj, hleft, hright⟩
  · have hback : r.Leads tables t p := ⟨htt, hpt, j, hj, hleft, hright⟩
    exact mem_edges_ofTables.mp
      (JoinGraph.finishOrder_next _ (nodup_eraseDups tables) hp ht (mem_edges_ofTables.mpr hback))

/-- **The keyword of a join, read from one of its containers to the other.** It keeps the rows of
those that are outer if the join leads from the first of the two to the second. If it leads back,
the two are exchanged. -/
theorem Coherent.keyword_eq (h : r.Coherent) {first j : Join} (hfirst : first ∈ r.joins)
    (hconnects : first.connects p t = true) (hj : j ∈ r.joins) {side : Side}
    (hp : (j.atSide side).container = p) (ht : (j.atSide side.opposite).container = t) :
    first.kind.keyword =
      if first.left.container = p then
        keywordKeeping (j.atSide side).outer (j.atSide side.opposite).outer
      else keywordKeeping (j.atSide side.opposite).outer (j.atSide side).outer := by
  rcases Join.connects_iff.mp hconnects with ⟨hleft, hright⟩ | ⟨hleft, hright⟩
  · have hflagP := h.agree first hfirst j hj .left side (hleft.trans hp.symm)
    have hflagT := h.agree first hfirst j hj .right side.opposite (hright.trans ht.symm)
    rw [if_pos hleft, Join.keyword_kind, ← hflagP, ← hflagT]
    rfl
  · -- the join leads back, so its flags are read the other way round
    have hflagT := h.agree first hfirst j hj .left side.opposite (hleft.trans ht.symm)
    have hflagP := h.agree first hfirst j hj .right side (hright.trans hp.symm)
    have hnot : first.left.container ≠ p := fun heq =>
      h.apart first hfirst (heq.trans hright.symm)
    rw [if_neg hnot, Join.keyword_kind, ← hflagT, ← hflagP]
    rfl

end JoinRegistry

namespace Query

variable {q : Query} {style : Style}

/-- The kind of the join between two tables is that of the first one registered between them. -/
theorem joinKind_eq (h : q.joins.Coherent) (p t : ContainerId) :
    q.joinKind t p = ((q.joins.joins.find? (·.connects p t)).map (·.kind)).getD .inner := by
  have hcomm : ∀ j : Join, j.connects t p = j.connects p t := fun j => by
    rw [Bool.eq_iff_iff, Join.connects_iff, Join.connects_iff, or_comm]
  rw [joinKind, h.joinsBetween_eq, List.head?_filter]
  simp only [hcomm]

namespace Coherent

variable (h : q.Coherent)
include h

/-- Along the order, each table is joined by the kind of its join with the one before it. -/
theorem kinds_joinedTables (earlier : List ContainerId) (previous : ContainerId)
    {rest : List ContainerId} (hrest : ∀ c ∈ rest, c ∈ q.finishOrder) :
    (q.joinedTables style earlier previous rest).map (·.kind) =
      List.zipWith q.joinKind rest (previous :: rest) := by
  induction rest generalizing earlier previous with
  | nil => rfl
  | cons c rest ih =>
    -- no table of the order is left out, so the two lists keep in step
    obtain ⟨k, -, -, hk⟩ := h.container?_finishOrder (hrest c List.mem_cons_self)
    rw [joinedTables, hk, Option.map_some, Option.toList_some, List.singleton_append,
      List.map_cons, ih _ _ fun c hc => hrest c (List.mem_cons_of_mem _ hc), joinedTable,
      List.zipWith_cons_cons]

theorem joined_kinds (style : Style) :
    (q.statement style).joined.map (·.kind) =
      List.zipWith q.joinKind q.finishOrder.tail q.finishOrder := by
  rw [Statement.joined, statement, fromClause?]
  cases horder : q.finishOrder with
  | nil => rfl
  | cons c rest =>
    obtain ⟨k, -, -, hk⟩ := h.container?_finishOrder (c := c) (by simp [horder])
    dsimp only
    rw [hk, List.tail_cons]
    -- the first table has no keyword: it is what the first joined one is compared with
    refine h.kinds_joinedTables [c] c fun d hd => ?_
    rw [horder]
    exact List.mem_cons_of_mem _ hd

theorem joinedParts_keyword (hsel : q.selection ≠ []) (style : Style) :
    (Token.joinedParts (q.structuralTokens style)).map (·.keyword) =
      (List.zipWith q.joinKind q.finishOrder.tail q.finishOrder).map Token.join := by
  have hkeyword : ((q.statement style).joined.map JoinedTable.part).map (·.keyword) =
      ((q.statement style).joined.map (·.kind)).map Token.join := by
    rw [List.map_map, List.map_map]
    rfl
  rw [h.joinedParts_eq hsel, hkeyword, h.joined_kinds]

/-- The keyword in front of a table behind the first one. -/
theorem keyword_at (hsel : q.selection ≠ []) {i : Nat} {p t : ContainerId}
    (hp : q.finishOrder[i]? = some p) (ht : q.finishOrder[i + 1]? = some t)
    {table : Token.JoinedPart}
    (htable : (Token.joinedParts (q.structuralTokens style))[i]? = some table) :
    table.keyword = .join (q.joinKind t p) := by
  have hkeywords := congrArg (·[i]?) (h.joinedParts_keyword hsel style)
  simp only [List.getElem?_map, htable, Option.map_some, List.getElem?_zipWith, List.getElem?_tail,
    ht, hp] at hkeywords
  exact Option.some.inj hkeywords

end Coherent

/-- **Whose rows the keyword keeps.** Take two tables that stand next to each other in the order and
are joined, in the statement of a query that a history comes to and that has something selected, in
any style. The tokens of the statement name the two one after the other, with a keyword in front of
the second. The outer flags of the two are the same at all joins between them. Then:

* some join leads from the first of the two to the second;
* the keyword keeps the rows of those that are outer, as they stand, if the first join between them
  leads from the first to the second as well; otherwise it keeps them with the two exchanged;
* so it is the right one exactly if that join leads so, or the two flags are equal.

It is wrong if the two are joined in both directions, the first of these joins leads back, and just
one of the two tables is outer: then it keeps the rows of the other one. -/
theorem Reachable.joinKind_next (hq : q.Reachable) (hsel : q.selection ≠ []) (style : Style)
    {i : Nat} {p t : ContainerId} (hp : q.finishOrder[i]? = some p)
    (ht : q.finishOrder[i + 1]? = some t)
    (hjoined : ∃ j ∈ q.joins.inOrder, j.connects p t = true) :
    q.generateStructural style = Token.render style.quote (q.structuralTokens style) ∧
    (∃ j ∈ q.joins.inOrder, j.left.container = p ∧ j.right.container = t) ∧
    ∃ k ∈ q.fromTables, ∃ l ∈ q.fromTables, k.id = p ∧ l.id = t ∧
      (Token.tableParts (q.structuralTokens style))[i]? = some k.named ∧
      (Token.tableParts (q.structuralTokens style))[i + 1]? = some l.named ∧
      ∃ table first, (Token.joinedParts (q.structuralTokens style))[i]? = some table ∧
        table.table = l.named ∧
        q.joins.inOrder.find? (·.connects p t) = some first ∧
        ∀ j ∈ q.joins.inOrder, ∀ side, (j.atSide side).container = p →
          (j.atSide side.opposite).container = t →
            let outer := (j.atSide side).outer
            let outer' := (j.atSide side.opposite).outer
            table.keyword.text style.quote =
              (if first.left.container = p then keywordKeeping outer outer'
                else keywordKeeping outer' outer) ∧
            (table.keyword.text style.quote = keywordKeeping outer outer' ↔
              first.left.container = p ∨ outer = outer') := by
  have h := hq.coherent
  rw [h.joins.inOrder_eq] at hjoined ⊢
  rw [h.fromTables_eq]
  obtain ⟨j, hj, hconnects⟩ := hjoined
  obtain ⟨k, hk, rfl⟩ := h.exists_tablesInOrder hp
  obtain ⟨l, hl, rfl⟩ := h.exists_tablesInOrder ht
  obtain ⟨table, htable⟩ := h.exists_joinedPart hsel style ht
  -- the keyword is read off the first join between the two tables, whichever way it goes
  obtain ⟨first, hfirst⟩ : ∃ first, q.joins.joins.find? (·.connects k.id l.id) = some first :=
    Option.isSome_iff_exists.mp (List.find?_isSome.mpr ⟨j, hj, hconnects⟩)
  -- a table that directly follows one it is joined with was reached over a join that leads there
  have hleads := (JoinRegistry.leads_next hp ht (h.joins.inOrder_eq ▸ hj) hconnects).2.2
  obtain ⟨l', hl', hname, -⟩ := h.joinedPart_at hsel htable
  obtain rfl := Option.some.inj (hl'.symm.trans hl)
  refine ⟨rfl, h.joins.inOrder_eq ▸ hleads, k, h.tablesInOrder_perm.mem_iff.mp
    (List.mem_of_getElem? hk), l', h.tablesInOrder_perm.mem_iff.mp (List.mem_of_getElem? hl), rfl,
    rfl, ?_, ?_, table, first, htable, hname, hfirst, ?_⟩
  · rw [h.tableParts_eq hsel, List.getElem?_map, hk, Option.map_some]
  · rw [h.tableParts_eq hsel, List.getElem?_map, hl, Option.map_some]
  · intro j hj side hjp hjt
    have hconnects : first.connects k.id l'.id = true :=
      List.find?_some (p := fun j : Join => j.connects k.id l'.id) hfirst
    -- all joins of one container agree on its flag, so any join between the two gives the same
    -- flags
    have hkeyword := h.joins.keyword_eq (List.mem_of_find?_eq_some hfirst) hconnects hj hjp hjt
    have htext : table.keyword.text style.quote = first.kind.keyword := by
      rw [h.keyword_at hsel hp ht htable, joinKind_eq h.joins, hfirst]
      rfl
    dsimp only
    rw [htext, hkeyword]
    refine ⟨rfl, ?_⟩
    split
    · next hleft => exact iff_of_true rfl (.inl hleft)
    · next hleft => rw [keywordKeeping_swap_iff, or_iff_right hleft]

end Query

/-- A history of two tables that are joined in both directions. The first one keeps all its rows,
and the first join leads from it. -/
def Edit.sampleBothWays : List Edit :=
  [.addTable { Container.table ⟨.ofNat 10⟩ "orders" with
      items := [{ Item.column ⟨.ofNat 10⟩ "customer" with selected := true }] },
    .addTable { Container.table ⟨.ofNat 20⟩ "customers" with
      items := [Item.column ⟨.ofNat 20⟩ "number"] },
    .addJoin (.sample 30 10 20),
    .addJoin (.sample 31 20 10),
    .setJoinOuter ⟨.ofNat 30⟩ .left true]

namespace Session

/-- The query that this history comes to. -/
def queryBothWays : Query :=
  ((ofQuery ((Query.new "sample").run (IdSupply.after 0)).1).run Edit.sampleBothWays).query

theorem queryBothWays_reachable : queryBothWays.Reachable := by
  refine run_new_reachable fun e he => ?_
  revert e
  simp [Edit.sampleBothWays, Edit.WellFormed, Container.table]

/-- The table that is added second is named first, since the search comes to it first. -/
theorem finishOrder_queryBothWays :
    queryBothWays.finishOrder = [⟨.ofNat 20⟩, ⟨.ofNat 10⟩] := by
  have hgraph : JoinGraph.ofTables queryBothWays.tableIds queryBothWays.joins.inOrder =
      ⟨[⟨.ofNat 10⟩, ⟨.ofNat 20⟩],
        [(⟨.ofNat 10⟩, ⟨.ofNat 20⟩), (⟨.ofNat 20⟩, ⟨.ofNat 10⟩)]⟩ := by decide
  have hne : Uuid.ofNat 10 ≠ Uuid.ofNat 20 := by decide
  rw [Query.finishOrder, finishOrder, hgraph]
  simp [JoinGraph.finishOrder, JoinGraph.searchFrom, JoinGraph.search, JoinGraph.successors, hne,
    hne.symm]

/-- **The keyword may keep the rows of the wrong table.** Here the second of the two tables is the
one that keeps its rows, which is a right outer join, but the keyword is that for the first one. -/
theorem keyword_of_other_table :
    queryBothWays.Reachable ∧ queryBothWays.selection ≠ [] ∧
      queryBothWays.finishOrder = [⟨.ofNat 20⟩, ⟨.ofNat 10⟩] ∧
      (∃ j ∈ queryBothWays.joins.inOrder, ∃ side,
        (j.atSide side).container = ⟨.ofNat 20⟩ ∧ (j.atSide side).outer = false ∧
        (j.atSide side.opposite).container = ⟨.ofNat 10⟩ ∧
        (j.atSide side.opposite).outer = true) ∧
      keywordKeeping false true = "RIGHT OUTER JOIN" ∧
      ∀ style, (Token.joinedParts (queryBothWays.structuralTokens style)).map
        (·.keyword.text style.quote) = ["LEFT OUTER JOIN"] := by
  have hsel : queryBothWays.selection ≠ [] := by decide
  refine ⟨queryBothWays_reachable, hsel, finishOrder_queryBothWays, ?_, rfl, fun style => ?_⟩
  · exact ⟨(Join.sample 30 10 20).setOuter .left true, by decide, .right, by decide⟩
  · -- the first join goes from the later table to the earlier one, so its flags are read the wrong
    -- way round
    have hkind : queryBothWays.joinKind ⟨.ofNat 10⟩ ⟨.ofNat 20⟩ = .leftOuter := by decide
    have hkeywords := queryBothWays_reachable.coherent.joinedParts_keyword hsel style
    rw [finishOrder_queryBothWays, List.tail_cons, List.zipWith_cons_cons, hkind] at hkeywords
    have htexts := congrArg (·.map (Token.text style.quote)) hkeywords
    rwa [List.map_map] at htexts

end Session

/-- In the sample the first join leads back, so the keyword does not say what the flags say. -/
theorem Query.joinKind_next_sample :
    Session.queryBothWays.Reachable ∧ Session.queryBothWays.selection ≠ [] ∧
      Session.queryBothWays.finishOrder[0]? = some ⟨.ofNat 20⟩ ∧
      Session.queryBothWays.finishOrder[1]? = some ⟨.ofNat 10⟩ ∧
      ∃ table, (Token.joinedParts
          (Session.queryBothWays.structuralTokens ⟨.generic, ""⟩))[0]? = some table ∧
        table.keyword.text "" ≠ "RIGHT OUTER JOIN" := by
  have hsel : Session.queryBothWays.selection ≠ [] := by decide
  have hp : Session.queryBothWays.finishOrder[0]? = some ⟨.ofNat 20⟩ := by
    rw [Session.finishOrder_queryBothWays, List.getElem?_cons_zero]
  have ht : Session.queryBothWays.finishOrder[1]? = some ⟨.ofNat 10⟩ := by
    rw [Session.finishOrder_queryBothWays, List.getElem?_cons_succ, List.getElem?_cons_zero]
  have hfirst : Session.queryBothWays.joins.inOrder.find? (·.connects ⟨.ofNat 20⟩ ⟨.ofNat 10⟩) =
      some ((Join.sample 30 10 20).setOuter .left true) := by decide
  have hjoined := List.mem_of_find?_eq_some hfirst
  obtain ⟨-, -, -, -, -, -, -, -, -, -, table, first, htable, -, hfound, hkeyword⟩ :=
    Session.queryBothWays_reachable.joinKind_next hsel ⟨.generic, ""⟩ hp ht
      ⟨_, hjoined, by decide⟩
  refine ⟨Session.queryBothWays_reachable, hsel, hp, ht, table, htable, fun hright => ?_⟩
  obtain rfl := Option.some.inj (hfound.symm.trans hfirst)
  -- the first join starts at the other table, and only one of the two is outer
  have hleads := (hkeyword _ hjoined .right rfl rfl).2.mp hright
  exact absurd hleads (by decide)

end VisualQuery
