import VisualQuery.Proofs.JoinGraph.Cycles
import VisualQuery.Proofs.Sql.Clauses
import VisualQuery.Proofs.Sql.TablesReadBack

/-!
# Conditions of joins as they are read

The tables and conditions behind `FROM` are read off the tokens of a statement. On a query that a
history comes to, every table is named once, every registered join has one condition, at the later
one of its two tables, and no other condition is there (`Query.Reachable.conditions_placed`).

So a table is joined on `0 = 0`, as the generator writes it, exactly if no join connects it to a
table before it (`Query.Reachable.tautology_iff`). The text does not tell this apart from the
condition of a join. Constants are written as they are, and they may stand in tables and be joined:
if the only join between a table and those before it compares two constants called `0`, then its
condition has the same text (`Coherent.render_conditionsTokens_eq_iff`). No other condition has it:
a column has the point behind its qualifier, and a second condition the keyword between the two.
-/

namespace VisualQuery

open Token (IsOperand words)

/-- The tokens that name a table: its schema and name, and its alias behind a space if it has
one. -/
def Container.named (k : Container) : List Token :=
  .qualifiedIdent k.schema? k.name :: k.alias?.toList.flatMap fun name => [.space, .aliasName name]

theorem Container.tableTokens_tableRef (k : Container) :
    Statement.tableTokens (Query.tableRef k) = k.named := by
  rw [Statement.tableTokens, Query.tableRef, named]
  cases k.alias? <;> rfl

/-! ### Texts that read `0 = 0` -/

namespace Token

theorem toList_render (quote : String) (tokens : List Token) :
    (render quote tokens).toList = tokens.flatMap fun t => (t.text quote).toList := by
  rw [render, String.toList_join, List.flatMap_map]

theorem mem_toList_render (quote : String) {tokens : List Token} {t : Token} (ht : t ∈ tokens)
    {c : Char} (hc : c ∈ (t.text quote).toList) : c ∈ (render quote tokens).toList := by
  rw [toList_render]
  exact List.mem_flatMap.mpr ⟨t, ht, hc⟩

end Token

/-- The two spaces around a word leave one way to read the text. -/
theorem eq_of_append_eq_zeros {left word right : List Char} (hne : word ≠ [])
    (hspace : ' ' ∉ word) (h : left ++ [' '] ++ word ++ [' '] ++ right = "0 = 0".toList) :
    left = ['0'] ∧ word = ['='] ∧ right = ['0'] := by
  have htext : "0 = 0".toList = ['0', ' ', '=', ' ', '0'] := rfl
  obtain ⟨w, word, rfl⟩ := List.exists_cons_of_ne_nil hne
  rw [htext] at h
  -- the space in front of the word is the second character: no other one leaves room for it
  rcases left with _ | ⟨a, _ | ⟨b, _ | ⟨c, left⟩⟩⟩
  · simp at h
  · obtain ⟨rfl, rfl, hrest⟩ : a = '0' ∧ w = '=' ∧ word ++ ' ' :: right = [' ', '0'] := by
      simpa using h
    cases word with
    | nil => exact ⟨rfl, rfl, by simpa using hrest⟩
    | cons d word =>
      obtain ⟨rfl, -⟩ : d = ' ' ∧ word ++ ' ' :: right = ['0'] := by simpa using hrest
      exact absurd (by simp) hspace
  · simp at h
  · have hlength := congrArg List.length h
    simp only [List.length_append, List.length_cons, List.length_nil] at hlength
    omega

namespace Statement

theorem render_conditionTokens_eq_iff (quote : String) (c : Condition) :
    Token.render quote (conditionTokens c) = "0 = 0" ↔
      Token.render quote c.left = "0" ∧ c.comparator = .eq ∧ Token.render quote c.right = "0" := by
  -- no comparator has a blank in it, so the text splits at the two blanks in one way only
  have hword : c.comparator.word.toList ≠ [] ∧ ' ' ∉ c.comparator.word.toList ∧
      (c.comparator.word.toList = ['='] ↔ c.comparator = .eq) := by
    cases c.comparator <;> decide
  have htext : (Token.render quote (conditionTokens c)).toList =
      (Token.render quote c.left).toList ++ [' '] ++ c.comparator.word.toList ++ [' '] ++
        (Token.render quote c.right).toList := by
    simp [Token.toList_render, conditionTokens, Token.text]
  rw [← String.toList_inj, htext, ← String.toList_inj, ← String.toList_inj]
  constructor
  · intro h
    obtain ⟨hleft, heq, hright⟩ := eq_of_append_eq_zeros hword.1 hword.2.1 h
    exact ⟨hleft, hword.2.2.mp heq, hright⟩
  · rintro ⟨hleft, heq, hright⟩
    rw [hleft, hright, hword.2.2.mpr heq]
    rfl

/-- The condition that always holds, as it is read. -/
theorem render_zeroIsZero (quote : String) : Token.render quote Token.zeroIsZero = "0 = 0" := by
  have hzero : Decimal.intText 0 = "0" := by
    change String.ofList (Decimal.digits 0) = "0"
    rw [Decimal.digits]
    decide
  simp only [Token.render, Token.zeroIsZero, List.map, Token.text, Comparator.word, hzero]
  decide

/-- Of the conditions of a table, none are read as `0 = 0`, or a single one is. -/
theorem render_conditionsTokens_eq_iff (quote : String) (cs : List Condition) :
    Token.render quote (conditionsTokens cs) = "0 = 0" ↔
      cs = [] ∨ ∃ c, cs = [c] ∧ Token.render quote c.left = "0" ∧ c.comparator = .eq ∧
        Token.render quote c.right = "0" := by
  match cs with
  | [] => exact iff_of_true (render_zeroIsZero quote) (.inl rfl)
  | [c] =>
    have hsingle : conditionsTokens [c] = conditionTokens c := by
      rw [conditionsTokens, List.isEmpty_cons, if_neg Bool.false_ne_true, List.map_singleton,
        Token.separated, List.intercalate_singleton]
    rw [hsingle, render_conditionTokens_eq_iff]
    simp
  | c :: d :: rest =>
    -- the keyword between two conditions is in the text
    have hand : Token.and ∈ conditionsTokens (c :: d :: rest) := by
      simp [conditionsTokens, Token.separated, and, List.intercalate_cons_cons]
    refine iff_of_false (fun htext => ?_) (by simp)
    have hletter : 'A' ∈ (Token.and.text quote).toList := by
      rw [Token.text]
      decide
    have hmem := Token.mem_toList_render quote hand hletter
    rw [htext] at hmem
    exact absurd hmem (by decide)

end Statement

/-- A constant is written as `0` if it is called so: no dialect spells another one like this. -/
theorem Dialect.itemText_eq_zero_iff (d : Dialect) (quote : String) {x : Item}
    (hx : x.kind = .constant) : d.itemText quote x = "0" ↔ x.name = "0" := by
  rw [itemText, hx]
  dsimp only
  constructor
  · intro h
    cases hspelling : d.spelling? x.name with
    | none => rwa [hspelling] at h
    | some text =>
      rw [hspelling] at h
      obtain ⟨entry, hentry, rfl⟩ := Option.map_eq_some_iff.mp hspelling
      -- a builtin name is respelled, and to `0` by no dialect
      have hne : ∀ entry ∈ d.spellings, entry.2 ≠ "0" := by cases d <;> decide
      exact absurd h (hne entry (List.mem_of_find?_eq_some hentry))
  · intro h
    have hnone : d.spelling? "0" = none := by cases d <;> decide
    rw [h, hnone]
    rfl

namespace Query

variable {q : Query} {style : Style}

/-- The registered joins that connect a table to those before the given position. -/
def joinsToEarlier (q : Query) (i : Nat) (c : ContainerId) : List Join :=
  q.joins.inOrder.filter fun j => (q.finishOrder.take i).any (j.connects c)

/-- A join that compares two constants called `0` for equality. -/
def ComparesZeros (q : Query) (j : Join) : Prop :=
  j.comparator = .eq ∧ ∀ side, ∃ x ∈ q.items,
    x.id = (j.atSide side).item ∧ x.kind = .constant ∧ x.name = "0"

/-- The tokens are the condition of a join: its left item, its comparator and its right item. -/
def IsConditionOf (q : Query) (style : Style) (tokens : List Token) (j : Join) : Prop :=
  ∃ x ∈ q.items, ∃ y ∈ q.items, x.id = j.left.item ∧ y.id = j.right.item ∧
    tokens = q.plainExpr style x ++ [.comparator j.comparator] ++ q.plainExpr style y

/-- The conditions of a table: those of the joins that are placed there. -/
def conditionsAt (q : Query) (style : Style) (c : ContainerId) : List Condition :=
  (q.joinsPlacedAt c).filterMap (q.condition? style)

/-- An item of a table is written as `0` if it is a constant called so. -/
theorem render_plainExpr_eq_zero_iff (quote : String) {x : Item} {k : Container}
    (hx : q.containerOf? x.id = some k) (htable : k.isConstants = false) :
    Token.render quote (q.plainExpr style x) = "0" ↔ x.kind = .constant ∧ x.name = "0" := by
  have hplain : x.kind ≠ .column →
      Token.render quote (q.plainExpr style x) = style.dialect.itemText style.quote x := by
    intro hkind
    rw [plainExpr, qualifierTokens, qualifyingTable?, if_neg hkind]
    simp [Token.render, Token.text, String.join]
  cases hkind : x.kind with
  | column =>
    -- the point behind the qualifier is in the text
    have hdot : Token.dot ∈ q.plainExpr style x := by
      rw [plainExpr, qualifierTokens, qualifyingTable?, if_pos hkind, hx]
      simp only [Option.filter, htable, Bool.not_false, if_true]
      cases k.alias? <;> simp
    have hpoint : '.' ∈ (Token.dot.text quote).toList := by
      rw [Token.text]
      decide
    refine iff_of_false (fun hzero => ?_) (by simp)
    have hmem := Token.mem_toList_render quote hdot hpoint
    rw [hzero] at hmem
    exact absurd hmem (by decide)
  | constant =>
    rw [hplain (by simp [hkind]), Dialect.itemText_eq_zero_iff _ _ hkind]
    simp
  | countStar =>
    rw [hplain (by simp [hkind]), Dialect.itemText, hkind]
    have hcount : "COUNT(*)" ≠ "0" := by decide
    exact iff_of_false hcount (by simp)

namespace Coherent

variable (h : q.Coherent)
include h

/-! ### Tables of a query as they are read -/

theorem tableParts_eq (hsel : q.selection ≠ []) (style : Style) :
    Token.tableParts (q.structuralTokens style) = q.tablesInOrder.map Container.named := by
  rw [structuralTokens_of_selection hsel, (h.statement_readable hsel style).tableParts_tokens,
    h.namedTables_eq, List.map_map]
  exact List.map_congr_left fun k _ => k.tableTokens_tableRef

theorem joinedParts_eq (hsel : q.selection ≠ []) (style : Style) :
    Token.joinedParts (q.structuralTokens style) =
      (q.statement style).joined.map JoinedTable.part := by
  rw [structuralTokens_of_selection hsel, (h.statement_readable hsel style).joinedParts_tokens]

theorem length_joinedParts (hsel : q.selection ≠ []) (style : Style) :
    (Token.joinedParts (q.structuralTokens style)).length = q.finishOrder.length - 1 := by
  rw [h.joinedParts_eq hsel, List.length_map, h.length_joined]

/-- **A joined table as it is read** is one of the order behind the first, and it is joined on the
conditions of the joins that are placed there. -/
theorem joinedPart_at (hsel : q.selection ≠ []) {i : Nat} {t : Token.JoinedPart}
    (ht : (Token.joinedParts (q.structuralTokens style))[i]? = some t) :
    ∃ k, q.tablesInOrder[i + 1]? = some k ∧ t.table = k.named ∧
      t.on = Statement.conditionsTokens (q.conditionsAt style k.id) ∧
      t.conditions = (q.conditionsAt style k.id).map Statement.conditionWords := by
  have hoperands := (h.statement_readable hsel style).conditions
  rw [h.joinedParts_eq hsel, List.getElem?_map] at ht
  obtain ⟨table, htable, rfl⟩ := Option.map_eq_some_iff.mp ht
  -- a part that is printed belongs to a place of the order, and there is a table at each
  have hlt := (List.getElem?_eq_some_iff.mp htable).1
  rw [h.length_joined, ← h.tablesInOrder_ids, List.length_map] at hlt
  have hk := List.getElem?_eq_getElem (l := q.tablesInOrder) (i := i + 1) (by omega)
  obtain ⟨hname, hconditions⟩ := h.joined_at htable hk
  refine ⟨_, hk, ?_, ?_, ?_⟩
  · rw [JoinedTable.part, hname]
    exact Container.tableTokens_tableRef _
  · rw [JoinedTable.part, hconditions, conditionsAt]
  · rw [Statement.conditions_part (hoperands table (List.mem_of_getElem? htable)), hconditions,
      conditionsAt]

theorem exists_joinedPart (hsel : q.selection ≠ []) (style : Style) {i : Nat} {c : ContainerId}
    (hc : q.finishOrder[i + 1]? = some c) :
    ∃ t, (Token.joinedParts (q.structuralTokens style))[i]? = some t := by
  have hlt := (List.getElem?_eq_some_iff.mp hc).1
  have hi : i < (Token.joinedParts (q.structuralTokens style)).length := by
    rw [h.length_joinedParts hsel]
    omega
  exact ⟨_, List.getElem?_eq_getElem hi⟩

theorem joinedParts_on (hsel : q.selection ≠ []) (style : Style) :
    (Token.joinedParts (q.structuralTokens style)).map (·.on) =
      q.finishOrder.tail.map fun c => Statement.conditionsTokens (q.conditionsAt style c) := by
  have hon : ((q.statement style).joined.map JoinedTable.part).map (·.on) =
      ((q.statement style).joined.map (·.conditions)).map Statement.conditionsTokens := by
    rw [List.map_map, List.map_map]
    rfl
  rw [h.joinedParts_eq hsel, hon, h.joined_conditions, List.map_map]
  rfl

/-- What holds of some joined table that is read, by the positions of the order. -/
theorem exists_joinedPart_iff (hsel : q.selection ≠ []) {P : Token.JoinedPart → Prop}
    {Q : Nat → ContainerId → Prop}
    (hPQ : ∀ i t c, (Token.joinedParts (q.structuralTokens style))[i]? = some t →
      q.finishOrder[i + 1]? = some c → (P t ↔ Q i c)) :
    (∃ t ∈ Token.joinedParts (q.structuralTokens style), P t) ↔
      ∃ i c, q.finishOrder[i + 1]? = some c ∧ Q i c := by
  constructor
  · rintro ⟨t, ht, hP⟩
    obtain ⟨i, hi⟩ := List.getElem?_of_mem ht
    obtain ⟨k, hk, -⟩ := h.joinedPart_at hsel hi
    exact ⟨i, k.id, h.finishOrder_at hk, (hPQ i t k.id hi (h.finishOrder_at hk)).mp hP⟩
  · -- every place but the first has its printed part
    rintro ⟨i, c, hc, hQ⟩
    obtain ⟨t, ht⟩ := h.exists_joinedPart hsel style hc
    exact ⟨t, List.mem_of_getElem? ht, (hPQ i t c ht hc).mpr hQ⟩

/-! ### Conditions -/

/-- The joins that connect a table to those before it are the ones that are placed there. -/
theorem joinsToEarlier_eq {i : Nat} {c : ContainerId} (hc : q.finishOrder[i]? = some c) :
    q.joinsToEarlier i c = q.joinsPlacedAt c := by
  rw [joinsToEarlier, h.joins.inOrder_eq, ← h.filter_leadsBack hc]
  refine List.filter_congr fun j hj => ?_
  rw [Bool.eq_iff_iff, Join.leadsBack_iff (h.joins.apart j hj), List.any_eq_true]

/-- The conditions of registered joins are read as theirs, one for each. -/
theorem forall₂_isConditionOf (style : Style) {js : List Join} (hjs : ∀ j ∈ js, j ∈ q.joins.joins) :
    List.Forall₂ (q.IsConditionOf style)
      ((js.filterMap (q.condition? style)).map Statement.conditionWords) js := by
  induction js with
  | nil => exact .nil
  | cons j js ih =>
    obtain ⟨hj, hjs⟩ := List.forall_mem_cons.mp hjs
    obtain ⟨x, hx, y, hy, hleft, hright, hcondition⟩ := h.condition?_of_mem style hj
    rw [List.filterMap_cons_some hcondition, List.map_cons]
    exact .cons ⟨x, hx, y, hy, hleft, hright, rfl⟩ (ih hjs)

/-- The joins that are placed behind the first table are all of them. -/
theorem joinsPlacedAt_tail_perm :
    (q.finishOrder.tail.flatMap q.joinsPlacedAt).Perm q.joins.joins := by
  have hperm := h.joinsPlacedAt_perm
  cases horder : q.finishOrder with
  | nil => rwa [horder] at hperm
  | cons c rest =>
    rw [horder, List.flatMap_cons, h.joinsPlacedAt_first (by rw [horder]; rfl),
      List.nil_append] at hperm
    exact hperm

/-- All conditions that are read, table by table. -/
theorem flatMap_conditions (hsel : q.selection ≠ []) (style : Style) :
    (Token.joinedParts (q.structuralTokens style)).flatMap (·.conditions) =
      ((q.finishOrder.tail.flatMap q.joinsPlacedAt).filterMap (q.condition? style)).map
        Statement.conditionWords := by
  have hoperands := (h.statement_readable hsel style).conditions
  have hread : ∀ t ∈ (q.statement style).joined,
      t.part.conditions = t.conditions.map Statement.conditionWords :=
    fun t ht => Statement.conditions_part (hoperands t ht)
  rw [h.joinedParts_eq hsel, List.flatMap_map, List.flatMap_congr hread, ← List.map_flatMap,
    List.flatMap_def, h.joined_conditions, List.filterMap_flatMap, ← List.flatMap_def]

/-! ### Conditions that read `0 = 0` -/

/-- A table is joined on the condition that always holds if no join is placed there. -/
theorem conditionsTokens_eq_zeroIsZero (style : Style) (c : ContainerId) :
    Statement.conditionsTokens (q.conditionsAt style c) = Token.zeroIsZero ↔
      q.joinsPlacedAt c = [] := by
  have hmap := h.map_condition? style fun j (hj : j ∈ q.joinsPlacedAt c) => mem_joins_of_placed hj
  rw [Statement.conditionsTokens_eq_zeroIsZero, conditionsAt, ← List.map_eq_nil_iff (f := some),
    hmap, List.map_eq_nil_iff]
  intro condition hcondition
  obtain ⟨j, -, hj⟩ := List.mem_filterMap.mp hcondition
  exact isOperand_condition? hj

/-- The two items of a registered join tell whether it compares constants called `0`. -/
theorem comparesZeros_iff {j : Join} {x y : Item} (hx : x ∈ q.items) (hy : y ∈ q.items)
    (hleft : x.id = j.left.item) (hright : y.id = j.right.item) :
    q.ComparesZeros j ↔ (x.kind = .constant ∧ x.name = "0") ∧ j.comparator = .eq ∧
      y.kind = .constant ∧ y.name = "0" := by
  constructor
  · rintro ⟨heq, hends⟩
    obtain ⟨x', hx', hxid, hxzero⟩ := hends .left
    obtain ⟨y', hy', hyid, hyzero⟩ := hends .right
    -- the items of the two ends are unique, so they are the given ones
    obtain rfl := h.housed.eq_of_itemId hx' hx (hxid.trans hleft.symm)
    obtain rfl := h.housed.eq_of_itemId hy' hy (hyid.trans hright.symm)
    exact ⟨hxzero, heq, hyzero⟩
  · rintro ⟨hxzero, heq, hyzero⟩
    refine ⟨heq, fun side => ?_⟩
    cases side with
    | left => exact ⟨x, hx, hleft, hxzero⟩
    | right => exact ⟨y, hy, hright, hyzero⟩

/-- **Which conditions read `0 = 0`.** The one of a table without joins to those before it does, and
that of a single join that compares two constants called `0`. -/
theorem render_conditionsTokens_eq_iff (style : Style) (c : ContainerId) :
    Token.render style.quote (Statement.conditionsTokens (q.conditionsAt style c)) = "0 = 0" ↔
      q.joinsPlacedAt c = [] ∨ ∃ j, q.joinsPlacedAt c = [j] ∧ q.ComparesZeros j := by
  rw [Statement.render_conditionsTokens_eq_iff, conditionsAt]
  cases hjs : q.joinsPlacedAt c with
  | nil => exact iff_of_true (.inl rfl) (.inl rfl)
  | cons j js =>
    have hj : j ∈ q.joins.joins := mem_joins_of_placed (c := c) (by simp [hjs])
    obtain ⟨x, hx, y, hy, hleft, hright, hcondition⟩ := h.condition?_of_mem style hj
    rw [List.filterMap_cons_some hcondition]
    cases js with
    | nil =>
      -- the two items are in tables, where a column is not written without a qualifier
      obtain ⟨k, hk, -, hxk⟩ := h.containerOf?_end hj .left
      obtain ⟨l, hl, -, hyl⟩ := h.containerOf?_end hj .right
      have hxzero : Token.render style.quote (q.plainExpr style x) = "0" ↔
          x.kind = .constant ∧ x.name = "0" :=
        render_plainExpr_eq_zero_iff _ (hleft ▸ hxk) (h.tables_kind k hk)
      have hyzero : Token.render style.quote (q.plainExpr style y) = "0" ↔
          y.kind = .constant ∧ y.name = "0" :=
        render_plainExpr_eq_zero_iff _ (hright ▸ hyl) (h.tables_kind l hl)
      simp [h.comparesZeros_iff hx hy hleft hright, hxzero, hyzero]
    | cons j' js =>
      have hj' : j' ∈ q.joins.joins := mem_joins_of_placed (c := c) (by simp [hjs])
      obtain ⟨x', -, y', -, -, -, hcondition'⟩ := h.condition?_of_mem style hj'
      rw [List.filterMap_cons_some hcondition']
      exact iff_of_false (by simp) (by simp)

end Coherent

/-- **No condition is lost, repeated or out of place.** Take a query that a history comes to and
that has something selected, and read the tables and conditions behind `FROM` in the tokens of its
statement, in any style. Then there is an order of its tables such that:

* the tables that are named are those of the from-list in this order, each of them once;
* the conditions of all joined tables together are those of the registered joins, each once: the
  left item, the comparator and the right item of the join;
* the conditions of one table are those of the joins of which it is the table that is named later,
  in the order in which they were registered; if there are none, the table is joined on `0 = 0`;
* the tables of the two items of such a join are named by then. -/
theorem Reachable.conditions_placed (hq : q.Reachable) (hsel : q.selection ≠ []) (style : Style) :
    q.generateStructural style = Token.render style.quote (q.structuralTokens style) ∧
    ∃ order : List Container, order.Perm q.fromTables ∧ (order.map (·.id)).Nodup ∧
      order.map (·.id) = q.finishOrder ∧
      Token.tableParts (q.structuralTokens style) = order.map Container.named ∧
      (∃ js, js.Perm q.joins.inOrder ∧ List.Forall₂ (q.IsConditionOf style)
        ((Token.joinedParts (q.structuralTokens style)).flatMap (·.conditions)) js) ∧
      (Token.joinedParts (q.structuralTokens style)).length = order.length - 1 ∧
      ∀ i t k, (Token.joinedParts (q.structuralTokens style))[i]? = some t →
        order[i + 1]? = some k →
        let placed := q.joins.inOrder.filter (·.laterIn (order.map (·.id)) = k.id)
        t.table = k.named ∧
        List.Forall₂ (q.IsConditionOf style) t.conditions placed ∧
        (placed = [] → t.on = Token.zeroIsZero) ∧
        ∀ j ∈ placed, ∀ side,
          ∃ e ∈ order.take (i + 2), q.containerOf? (j.atSide side).item = some e := by
  have h := hq.coherent
  rw [h.joins.inOrder_eq, h.fromTables_eq]
  -- the order is that of the search; all that is read off the tokens is read at its places
  refine ⟨rfl, q.tablesInOrder, h.tablesInOrder_perm, h.tablesInOrder_ids ▸ h.finishOrder_nodup,
    h.tablesInOrder_ids, h.tableParts_eq hsel style, ?_, ?_, ?_⟩
  · -- no join is placed at the first table, so the tail of the order has them all
    refine ⟨_, h.joinsPlacedAt_tail_perm, ?_⟩
    rw [h.flatMap_conditions hsel]
    exact h.forall₂_isConditionOf style fun j hj => h.joinsPlacedAt_tail_perm.mem_iff.mp hj
  · rw [h.length_joinedParts hsel, ← h.tablesInOrder_ids, List.length_map]
  · intro i t k ht hk
    obtain ⟨k', hk', htable, hon, hconditions⟩ := h.joinedPart_at hsel ht
    -- the reader's table at this place is the one of the order
    obtain rfl := Option.some.inj (hk'.symm.trans hk)
    rw [h.tablesInOrder_ids]
    change _ ∧ List.Forall₂ _ _ (q.joinsPlacedAt k'.id) ∧ (q.joinsPlacedAt k'.id = [] → _) ∧ _
    refine ⟨htable, ?_, fun hnone => ?_, fun j hj side => h.end_mem_take hk hj side⟩
    · rw [hconditions]
      exact h.forall₂_isConditionOf style fun j hj => mem_joins_of_placed hj
    · rw [hon, conditionsAt, hnone]
      rfl

/-- The sample query has one join, whose condition is the only one of its statement. -/
theorem conditions_placed_sample :
    Session.sampleQuery.Reachable ∧ Session.sampleQuery.selection ≠ [] ∧
      ((Token.joinedParts (Session.sampleQuery.structuralTokens ⟨.generic, ""⟩)).flatMap
        (·.conditions)).length = 1 := by
  have hsel : Session.sampleQuery.selection ≠ [] := by decide
  refine ⟨Session.sampleQuery_reachable, hsel, ?_⟩
  obtain ⟨-, order, -, -, -, -, ⟨js, hjs, hconditions⟩, -⟩ :=
    Session.sampleQuery_reachable.conditions_placed hsel ⟨.generic, ""⟩
  rw [hconditions.length_eq, hjs.length_eq]
  decide

/-- **A table is joined on `0 = 0` if no join connects it to a table before it.** Read the tables
and conditions behind `FROM` in the tokens of the statement of a query that a history comes to and
that has something selected, in any style. Then:

* the joined tables are those of the order but the first, position by position;
* one of them is joined on the condition that always holds exactly if no registered join connects it
  to those before it;
* the text of what it is joined on is `0 = 0` exactly in this case and in one other: a single join
  connects it to those before it, and that join compares two constants called `0`;
* so some table is joined on the condition that always holds exactly if the search for cross joins
  finds one, and some table is joined on the text `0 = 0` in this case and where there is such a
  single join. -/
theorem Reachable.tautology_iff (hq : q.Reachable) (hsel : q.selection ≠ []) (style : Style) :
    q.generateStructural style = Token.render style.quote (q.structuralTokens style) ∧
    (Token.joinedParts (q.structuralTokens style)).length = q.finishOrder.length - 1 ∧
    (∀ i t c, (Token.joinedParts (q.structuralTokens style))[i]? = some t →
      q.finishOrder[i + 1]? = some c →
      (∃ k ∈ q.fromTables, k.id = c ∧ t.table = k.named) ∧
      (t.on = Token.zeroIsZero ↔ q.joinsToEarlier (i + 1) c = []) ∧
      (Token.render style.quote t.on = "0 = 0" ↔
        q.joinsToEarlier (i + 1) c = [] ∨
          ∃ j, q.joinsToEarlier (i + 1) c = [j] ∧ q.ComparesZeros j)) ∧
    ((∃ t ∈ Token.joinedParts (q.structuralTokens style), t.on = Token.zeroIsZero) ↔
      q.containsCrossJoins = true) ∧
    ((∃ t ∈ Token.joinedParts (q.structuralTokens style),
        Token.render style.quote t.on = "0 = 0") ↔
      q.containsCrossJoins = true ∨
        ∃ i c j, q.finishOrder[i + 1]? = some c ∧ q.joinsToEarlier (i + 1) c = [j] ∧
          q.ComparesZeros j) := by
  have h := hq.coherent
  -- what holds at one place; the two statements about the whole clause follow from it
  have hat : ∀ i t c, (Token.joinedParts (q.structuralTokens style))[i]? = some t →
      q.finishOrder[i + 1]? = some c →
      (∃ k ∈ q.fromTables, k.id = c ∧ t.table = k.named) ∧
      (t.on = Token.zeroIsZero ↔ q.joinsToEarlier (i + 1) c = []) ∧
      (Token.render style.quote t.on = "0 = 0" ↔
        q.joinsToEarlier (i + 1) c = [] ∨
          ∃ j, q.joinsToEarlier (i + 1) c = [j] ∧ q.ComparesZeros j) := by
    intro i t c ht hc
    obtain ⟨k, hk, htable, hon, -⟩ := h.joinedPart_at hsel ht
    obtain rfl : k.id = c := Option.some.inj ((h.finishOrder_at hk).symm.trans hc)
    rw [h.fromTables_eq, h.joinsToEarlier_eq hc, hon]
    exact ⟨⟨k, h.tablesInOrder_perm.mem_iff.mp (List.mem_of_getElem? hk), rfl, htable⟩,
      h.conditionsTokens_eq_zeroIsZero style k.id, h.render_conditionsTokens_eq_iff style k.id⟩
  -- the verdict says the same of the order that the reader says of the tokens
  have hcross : q.containsCrossJoins = true ↔
      ∃ i c, q.finishOrder[i + 1]? = some c ∧ q.joinsToEarlier (i + 1) c = [] := by
    rw [h.containsCrossJoins_iff]
    refine exists_congr fun i => exists_congr fun c => and_congr_right fun hc => ?_
    rw [h.joinsToEarlier_eq hc]
  refine ⟨rfl, h.length_joinedParts hsel style, hat, ?_, ?_⟩
  · rw [hcross]
    exact h.exists_joinedPart_iff hsel fun i t c ht hc => (hat i t c ht hc).2.1
  · rw [hcross, h.exists_joinedPart_iff hsel fun i t c ht hc => (hat i t c ht hc).2.2]
    simp only [and_or_left, exists_or, exists_and_left]

/-- In the sample query one table is joined to no other one. -/
theorem sampleQuery_containsCrossJoins : Session.sampleQuery.containsCrossJoins = true := by
  have hgraph : JoinGraph.ofTables Session.sampleQuery.tableIds Session.sampleQuery.joins.inOrder =
      ⟨[⟨.ofNat 10⟩, ⟨.ofNat 20⟩, ⟨.ofNat 40⟩], [(⟨.ofNat 10⟩, ⟨.ofNat 20⟩)]⟩ := by decide
  have hne : Uuid.ofNat 10 ≠ Uuid.ofNat 20 ∧ Uuid.ofNat 10 ≠ Uuid.ofNat 40 ∧
      Uuid.ofNat 20 ≠ Uuid.ofNat 40 := by decide
  have horder : VisualQuery.finishOrder Session.sampleQuery.tableIds Session.sampleQuery.joins =
      [⟨.ofNat 10⟩, ⟨.ofNat 20⟩, ⟨.ofNat 40⟩] := by
    rw [VisualQuery.finishOrder, hgraph]
    simp [JoinGraph.finishOrder, JoinGraph.searchFrom, JoinGraph.search, JoinGraph.successors, hne,
      hne.1.symm, hne.2.1.symm, hne.2.2.symm]
  rw [containsCrossJoins, hasCrossJoin, horder]
  decide

theorem tautology_iff_sample :
    Session.sampleQuery.Reachable ∧ Session.sampleQuery.selection ≠ [] ∧
      ∃ t ∈ Token.joinedParts (Session.sampleQuery.structuralTokens ⟨.generic, ""⟩),
        t.on = Token.zeroIsZero := by
  have hsel : Session.sampleQuery.selection ≠ [] := by decide
  refine ⟨Session.sampleQuery_reachable, hsel, ?_⟩
  exact (Session.sampleQuery_reachable.tautology_iff hsel ⟨.generic, ""⟩).2.2.2.1.mpr
    sampleQuery_containsCrossJoins

end Query

/-- A history of two tables that each hold a constant called `0`, and of a join that compares the
two. -/
def Edit.sampleZeros : List Edit :=
  [.addTable { Container.table ⟨.ofNat 10⟩ "orders" with
      items := [{ Item.constant ⟨.ofNat 10⟩ "0" with selected := true }] },
    .addTable { Container.table ⟨.ofNat 20⟩ "customers" with
      items := [Item.constant ⟨.ofNat 20⟩ "0"] },
    .addJoin (.sample 30 10 20)]

namespace Session

/-- The query that this history comes to. -/
def queryZeros : Query :=
  ((ofQuery ((Query.new "sample").run (IdSupply.after 0)).1).run Edit.sampleZeros).query

theorem queryZeros_reachable : queryZeros.Reachable := by
  refine run_new_reachable fun e he => ?_
  revert e
  simp [Edit.sampleZeros, Edit.WellFormed, Container.table]

theorem finishOrder_queryZeros : queryZeros.finishOrder = [⟨.ofNat 10⟩, ⟨.ofNat 20⟩] := by
  have hgraph : JoinGraph.ofTables queryZeros.tableIds queryZeros.joins.inOrder =
      ⟨[⟨.ofNat 10⟩, ⟨.ofNat 20⟩], [(⟨.ofNat 10⟩, ⟨.ofNat 20⟩)]⟩ := by decide
  have hne : Uuid.ofNat 10 ≠ Uuid.ofNat 20 := by decide
  rw [Query.finishOrder, finishOrder, hgraph]
  simp [JoinGraph.finishOrder, JoinGraph.searchFrom, JoinGraph.search, JoinGraph.successors, hne,
    hne.symm]

/-- **The condition of a join may read `0 = 0`.** Here the two tables are joined, so the search for
cross joins finds none, and yet the text of what the second one is joined on is that of the
condition that always holds. -/
theorem zeros_read_as_tautology :
    queryZeros.Reachable ∧ queryZeros.selection ≠ [] ∧ queryZeros.containsCrossJoins = false ∧
      queryZeros.finishOrder = [⟨.ofNat 10⟩, ⟨.ofNat 20⟩] ∧
      (∃ j ∈ queryZeros.joins.inOrder, j.connects ⟨.ofNat 20⟩ ⟨.ofNat 10⟩ = true) ∧
      ∀ style, ((Token.joinedParts (queryZeros.structuralTokens style)).map (·.on)).map
        (Token.render style.quote) = ["0 = 0"] := by
  have h := queryZeros_reachable.coherent
  have hsel : queryZeros.selection ≠ [] := by decide
  have hcross : queryZeros.containsCrossJoins = false := by
    have horder := finishOrder_queryZeros
    rw [Query.finishOrder] at horder
    rw [Query.containsCrossJoins, hasCrossJoin, horder]
    decide
  -- there is a join to the earlier table, so the condition is a real one
  have hplaced : queryZeros.joinsPlacedAt ⟨.ofNat 20⟩ = [.sample 30 10 20] := by
    rw [Query.joinsPlacedAt, finishOrder_queryZeros]
    decide
  have hzeros : queryZeros.ComparesZeros (.sample 30 10 20) := by
    refine ⟨rfl, fun side => ?_⟩
    cases side with
    | left =>
      let x : Item := { Item.constant ⟨.ofNat 10⟩ "0" with
        selected := true, parent := some ⟨.ofNat 10⟩ }
      exact ⟨x, by decide, rfl, rfl, rfl⟩
    | right =>
      let y : Item := { Item.constant ⟨.ofNat 20⟩ "0" with parent := some ⟨.ofNat 20⟩ }
      exact ⟨y, by decide, rfl, rfl, rfl⟩
  refine ⟨queryZeros_reachable, hsel, hcross, finishOrder_queryZeros,
    ⟨.sample 30 10 20, by decide, by decide⟩, fun style => ?_⟩
  rw [h.joinedParts_on hsel, finishOrder_queryZeros]
  exact congrArg (fun text => [text])
    ((h.render_conditionsTokens_eq_iff style ⟨.ofNat 20⟩).mpr (.inr ⟨_, hplaced, hzeros⟩))

end Session

end VisualQuery
