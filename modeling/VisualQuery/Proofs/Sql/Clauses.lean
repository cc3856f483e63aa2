import VisualQuery.Proofs.Sql.ReadBack

/-!
# Clauses of the statement of a query

The generator looks items up by their identities and leaves out those it does not find. On a query
that a history comes to, none is left out. Read back from the tokens of the statement, the parts are
one for each entry of the selection, one for each filter of an item, and one for each entry of the
sort list (`Query.Reachable.clauses_written`).

The expressions of an item in the selection, in a filter on groups and in a sort key are the same. A
filter on rows has the item outside its aggregate function.
-/

namespace VisualQuery

open Token (IsOperand IsPart words under)

namespace Query

variable {q : Query} {style : Style}

/-! ### Items that are found -/

/-- Of a list of known items, none is left out. -/
theorem Coherent.filterMap_item?_ids (h : q.Coherent) {ids : List ItemId}
    (hids : ∀ id ∈ ids, id ∈ q.items.map (·.id)) : (ids.filterMap q.item?).map (·.id) = ids := by
  have hfound : ∀ id ∈ ids, (q.item? id).map (·.id) = some id := fun id hid => by
    obtain ⟨x, hx, rfl⟩ := List.mem_map.mp (hids id hid)
    rw [h.item?_of_mem hx, Option.map_some]
  rw [List.map_filterMap, List.filterMap_congr hfound, List.filterMap_some]

theorem Coherent.selectedItems_ids (h : q.Coherent) :
    q.selectedItems.map (·.id) = q.selection :=
  -- each entry of the selection is an item of the query
  h.filterMap_item?_ids fun _ hid => h.selection.mem_ids hid

/-! ### Expressions of items -/

/-- An item by itself is an operand. -/
theorem isOperand_plainExpr (x : Item) : IsOperand (q.plainExpr style x) := by
  rw [plainExpr, qualifierTokens]
  refine ⟨by simp, ?_⟩
  cases q.qualifyingTable? x with
  | none => simp [Token.inOperand]
  | some c =>
    dsimp only
    cases c.alias? <;> simp [Token.inOperand]

theorem isPart_plainExpr (x : Item) : IsPart (q.plainExpr style x) := (isOperand_plainExpr x).isPart

theorem isPart_selectedExpr (x : Item) : IsPart (q.selectedExpr style x) := by
  rw [selectedExpr, itemExpr]
  split
  · have hopen : IsPart [.function x.groupFunction.word, .lparen] := by
      simp [IsPart, Token.opensClause]
    exact (hopen.append (isPart_plainExpr x)).append (by simp [IsPart, Token.opensClause])
  · exact isPart_plainExpr x

theorem words_plainExpr (x : Item) : words (q.plainExpr style x) = q.plainExpr style x :=
  (isOperand_plainExpr x).words_eq

theorem words_selectedExpr (x : Item) :
    words (q.selectedExpr style x) = q.selectedExpr style x := by
  rw [selectedExpr, itemExpr]
  split
  · rw [Token.words_append, Token.words_append, words_plainExpr]
    rfl
  · exact words_plainExpr x

theorem isOperand_condition? {j : Join} {c : Condition} (hc : q.condition? style j = some c) :
    IsOperand c.left ∧ IsOperand c.right := by
  simp only [condition?, Option.bind_eq_bind, Option.bind_eq_some_iff, Option.pure_def,
    Option.some.injEq] at hc
  obtain ⟨x, -, y, -, rfl⟩ := hc
  exact ⟨isOperand_plainExpr x, isOperand_plainExpr y⟩

theorem Coherent.statement_readable (h : q.Coherent) (hsel : q.selection ≠ []) (style : Style) :
    (q.statement style).Readable where
  nonempty := by
    intro hnil
    have hids := h.selectedItems_ids
    rw [List.map_eq_nil_iff.mp hnil] at hids
    exact hsel hids.symm
  members := List.forall_mem_map.mpr fun x _ => isPart_selectedExpr x
  conditions := by
    intro table htable c hc
    -- a condition is that of a join, so it has an item on either side
    have hmem := List.mem_map_of_mem (f := (·.conditions)) htable
    rw [h.joined_conditions style] at hmem
    obtain ⟨id, -, hconditions⟩ := List.mem_map.mp hmem
    rw [← hconditions] at hc
    obtain ⟨j, -, hj⟩ := List.mem_filterMap.mp hc
    exact isOperand_condition? hj
  filters := by
    intro e he
    rcases List.mem_append.mp he with he | he
    · obtain ⟨x, -, hx⟩ := List.mem_filterMap.mp he
      obtain ⟨text, -, rfl⟩ := Option.map_eq_some_iff.mp hx
      exact (isPart_plainExpr x).append (by simp [IsPart, Token.opensClause])
    · obtain ⟨text, -, rfl⟩ := Option.map_eq_some_iff.mp (Option.mem_toList.mp he)
      simp [IsPart, Token.opensClause]
  groupKeys := by
    rw [statement]
    dsimp only
    split
    · exact List.forall_mem_map.mpr fun x _ => isPart_plainExpr x
    · exact fun e he => absurd he List.not_mem_nil
  groupFilters := by
    rw [statement]
    dsimp only
    split
    · intro e he
      obtain ⟨x, -, hx⟩ := List.mem_filterMap.mp he
      obtain ⟨text, -, rfl⟩ := Option.map_eq_some_iff.mp hx
      exact (isPart_selectedExpr x).append (by simp [IsPart, Token.opensClause])
    · exact fun e he => absurd he List.not_mem_nil
  sortKeys := List.forall_mem_map.mpr fun x _ => isPart_selectedExpr x

/-! ### Parts of a query's statement -/

/-- The sorted items in the order of the sort list. -/
def sortedItems (q : Query) : List Item := q.sortList.filterMap q.item?

theorem Coherent.sortedItems_ids (h : q.Coherent) : q.sortedItems.map (·.id) = q.sortList :=
  h.filterMap_item?_ids fun _ hid => h.sortList.mem_ids hid

/-- A sorted item is selected and has a direction. -/
theorem Coherent.of_mem_sortedItems (h : q.Coherent) {x : Item} (hx : x ∈ q.sortedItems) :
    x ∈ q.selectedItems ∧ x.sortOrder.isOrdered = true := by
  obtain ⟨id, hid, hfound⟩ := List.mem_filterMap.mp hx
  obtain ⟨y, hy, rfl, hsorted⟩ := (h.sortList.mem_iff id).mp hid
  -- the item that is listed is the one that is found
  obtain rfl : y = x := Option.some.inj ((h.item?_of_mem hy).symm.trans hfound)
  obtain ⟨hselected, hordered⟩ := Bool.and_eq_true_iff.mp hsorted
  exact ⟨List.mem_filterMap.mpr ⟨y.id, (h.mem_selection hy).mpr hselected, hfound⟩, hordered⟩

/-- The words of an alias. -/
def aliasWords : Option String → List Token
  | none => []
  | some name => [.as, .aliasName name]

theorem words_memberTokens (x : Item) :
    words (Statement.memberTokens (q.member style x)) =
      q.selectedExpr style x ++ aliasWords (q.member style x).aliasName := by
  have hexpr : (q.member style x).expr = q.selectedExpr style x := rfl
  rw [Statement.memberTokens]
  cases (q.member style x).aliasName with
  | none => rw [hexpr, aliasWords, List.append_nil, words_selectedExpr]
  | some name =>
    rw [hexpr, Token.words_append, words_selectedExpr]
    rfl

/-- The last word of a sort key is its direction. -/
theorem words_sortKeyTokens {x : Item} (hordered : x.sortOrder.isOrdered = true) :
    words (Statement.sortKeyTokens ⟨q.selectedExpr style x, x.sortOrder⟩) =
      q.selectedExpr style x ++ [if x.sortOrder = .ascending then .asc else .desc] := by
  rw [Statement.sortKeyTokens]
  cases horder : x.sortOrder with
  | unordered => simp [horder, SortOrder.isOrdered] at hordered
  | ascending =>
    dsimp only
    rw [Token.words_append, words_selectedExpr]
    rfl
  | descending =>
    dsimp only
    rw [Token.words_append, words_selectedExpr]
    rfl

/-- The texts behind the expressions of those items that have one. -/
theorem words_texts {expr : Item → Expr} (hexpr : ∀ x, words (expr x) = expr x)
    (text? : Item → Option String) (items : List Item) :
    (items.filterMap fun x => (text? x).map fun text => expr x ++ [.space, .raw text]).map words =
      items.filterMap fun x => (text? x).map fun text => expr x ++ [.raw text] := by
  rw [List.map_filterMap]
  refine List.filterMap_congr fun x _ => ?_
  rw [Option.map_map]
  refine Option.map_congr fun text _ => ?_
  rw [Function.comp_apply, Token.words_append, hexpr]
  rfl

theorem words_filters (q : Query) (style : Style) :
    (q.filters style).map words =
      (q.itemsInOrder.filterMap fun x =>
        x.filter?.map fun text => q.plainExpr style x ++ [.raw text]) ++
      q.globalWhere.toList.map fun text => [.raw text] := by
  rw [filters, List.map_append, words_texts words_plainExpr]
  cases q.globalWhere <;> rfl

theorem words_groupFilters (q : Query) (style : Style) :
    (q.groupFilters style).map words =
      q.selectedItems.filterMap fun x =>
        x.having?.map fun text => q.selectedExpr style x ++ [.raw text] :=
  words_texts words_selectedExpr Item.having? q.selectedItems

/-- **Nothing is dropped from a statement.** Take a query that a history comes to and that has
something selected, and read the tokens of its statement clause by clause, in any style. Then:

* the keywords are in their order, and none of them comes twice;
* behind `SELECT` is one member for each entry of the selection, in its order: the expression of the
  item, and its alias if it is given one;
* behind `WHERE` is one filter for each item that has one, selected or not, first those of the
  constants and then those of the tables in their order, then the filter of the query if it has one,
  and nothing else;
* behind `HAVING`, while the query groups its rows, is one filter for each selected item that has
  one;
* behind `ORDER BY` is one key for each entry of the sort list, in its order. It ends in its
  direction, and it is the key of a selected item.

An item has the same expression in all its members, filters on groups and sort keys. -/
theorem Reachable.clauses_written (hq : q.Reachable) (hsel : q.selection ≠ []) (style : Style) :
    q.generateStructural style = Token.render style.quote (q.structuralTokens style) ∧
    q.selectedItems.map (·.id) = q.selection ∧
    q.sortedItems.map (·.id) = q.sortList ∧
    (∀ x ∈ q.sortedItems, x ∈ q.selectedItems ∧ x.sortOrder.isOrdered = true) ∧
    ((Token.clauses (words (q.structuralTokens style))).map (·.1)).Sublist
      [.select, .from', .where', .groupBy, .having, .orderBy] ∧
    under .select .comma (q.structuralTokens style) =
      (q.selectedItems.map fun x =>
        q.selectedExpr style x ++ aliasWords (q.member style x).aliasName) ∧
    under .where' .and (q.structuralTokens style) =
      (((q.constants :: q.fromTables).flatMap (·.items)).filterMap fun x =>
        x.filter?.map fun text => q.plainExpr style x ++ [.raw text]) ++
      (q.globalWhere.toList.map fun text => [.raw text]) ∧
    under .having .and (q.structuralTokens style) =
      (if q.grouping then q.selectedItems.filterMap fun x =>
        x.having?.map fun text => q.selectedExpr style x ++ [.raw text] else []) ∧
    under .orderBy .comma (q.structuralTokens style) =
      q.sortedItems.map fun x =>
        q.selectedExpr style x ++ [if x.sortOrder = .ascending then .asc else .desc] := by
  have h := hq.coherent
  have hreadable := h.statement_readable hsel style
  rw [structuralTokens_of_selection hsel style]
  -- each clause is read off by the general reader, then compared with the items part by part
  refine ⟨congrArg _ (structuralTokens_of_selection hsel style), h.selectedItems_ids,
    h.sortedItems_ids, fun x hx => h.of_mem_sortedItems hx, ?_, ?_, ?_, ?_, ?_⟩
  · rw [hreadable.clauses_words]
    exact Statement.clauses_keywords _
  · rw [hreadable.under_select, statement, List.map_map, List.map_map]
    exact List.map_congr_left fun x _ => words_memberTokens x
  · rw [hreadable.under_where]
    exact words_filters q style
  · rw [hreadable.under_having, statement]
    dsimp only
    split
    · exact words_groupFilters q style
    · rfl
  · rw [hreadable.under_orderBy]
    change ((q.sortedItems.map _).map _).map _ = _
    rw [List.map_map, List.map_map]
    exact List.map_congr_left fun x hx => words_sortKeyTokens (h.of_mem_sortedItems hx).2

end Query

/-- A history that adds a table with a filter, a filter on groups and a sort key, and groups the
rows. -/
def Edit.sampleFiltered : List Edit :=
  [.addTable { Container.table ⟨.ofNat 10⟩ "orders" with
      items := [{ Item.column ⟨.ofNat 11⟩ "total" with
          selected := true, groupFunction := .sum, havingText := some "> 100"
          sortOrder := .descending },
        { Item.column ⟨.ofNat 12⟩ "region" with whereText := some "= 'north'" }] },
    .setGlobalWhere (some "1 = 1"),
    .setGrouping true]

namespace Session

/-- The query that this history comes to. -/
def queryFiltered : Query :=
  ((ofQuery ((Query.new "sample").run (IdSupply.after 0)).1).run Edit.sampleFiltered).query

theorem queryFiltered_reachable : queryFiltered.Reachable := by
  have hids : Uuid.ofNat 11 ≠ Uuid.ofNat 12 := by decide
  refine run_new_reachable ?_
  simpa [Edit.sampleFiltered, Edit.WellFormed, Container.table, Item.column, Item.plain] using hids

end Session

/-- In the sample, the filter on groups and the sort key repeat the one member of the selection, and
the filter of the column that is not selected is there. -/
theorem Query.clauses_written_sample :
    Session.queryFiltered.Reachable ∧ Session.queryFiltered.selection ≠ [] ∧
      let tokens := Session.queryFiltered.structuralTokens ⟨.generic, ""⟩
      let total : Expr := [.function "SUM", .lparen, .ident "orders", .dot, .raw "total", .rparen]
      under .select .comma tokens = [total ++ [.as, .aliasName "SUM_total"]] ∧
      under .where' .and tokens =
        [[.ident "orders", .dot, .raw "region", .raw "= 'north'"], [.raw "1 = 1"]] ∧
      under .having .and tokens = [total ++ [.raw "> 100"]] ∧
      under .orderBy .comma tokens = [total ++ [.desc]] := by
  have hsel : Session.queryFiltered.selection ≠ [] := by decide
  obtain ⟨-, -, -, -, -, hselect, hwhere, hhaving, horder⟩ :=
    Session.queryFiltered_reachable.clauses_written hsel ⟨.generic, ""⟩
  refine ⟨Session.queryFiltered_reachable, hsel, ?_, ?_, ?_, ?_⟩
  · rw [hselect]
    decide
  · rw [hwhere]
    decide
  · rw [hhaving]
    decide
  · rw [horder]
    decide

end VisualQuery
