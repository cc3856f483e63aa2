import VisualQuery.Proofs.Sql.Clauses

/-!
# Grouping keys

While a query groups its rows, each selected item should be either a grouping key or an aggregate.
Two tests decide this apart from each other. An item is a key if it has no aggregate function and
its name does not begin like one (`Item.isGroupKey`). Its expression in the selection is an
aggregate if the item is put into its function, if it counts all rows, or if it is a constant that
begins with the name of a function (`Query.RendersAggregate`).

The tests agree on all items but one sort (`Query.isGroupKey_iff`). The count of all rows is an
aggregate by its kind, but it is kept off the keys by its name only, which the user may change. Once
it is renamed (`Item.IsRenamedCount`), its expression is a grouping key, and no database takes a
statement that groups by an aggregate (`Session.groups_by_count`). The keys are those that are read
behind `GROUP BY` in the tokens of the statement.
-/

namespace VisualQuery

namespace GroupFunction

theorem isAggregate_iff (f : GroupFunction) : f.isAggregate = true ↔ f ∈ aggregates := by
  cases f <;> decide

end GroupFunction

namespace Item

/-- The name of the item begins with the name of an aggregate function, in any letter case and after
any blanks. -/
def BeginsAggregate (x : Item) : Prop :=
  ∃ f ∈ GroupFunction.aggregates,
    f.word.toList <+: (Text.toUpper (Text.trimStart x.name)).toList

theorem isPreAggregated_iff (x : Item) :
    x.isPreAggregated = true ↔ x.kind ≠ .column ∧ x.BeginsAggregate := by
  rw [isPreAggregated, Bool.and_eq_true, bne_iff_ne, List.any_eq_true]
  simp only [List.isPrefixOf_iff_prefix, BeginsAggregate]

/-- Whether a selected item is a grouping key. -/
def isGroupKey (x : Item) : Bool := !x.groupFunction.isAggregate && !x.isPreAggregated

theorem isGroupKey_iff (x : Item) :
    x.isGroupKey = true ↔
      x.groupFunction ∉ GroupFunction.aggregates ∧ ¬(x.kind ≠ .column ∧ x.BeginsAggregate) := by
  rw [isGroupKey, Bool.and_eq_true, Bool.not_eq_true', Bool.not_eq_true', ← Bool.not_eq_true,
    ← Bool.not_eq_true, GroupFunction.isAggregate_iff, isPreAggregated_iff]

/-- **The items that the two tests do not agree on**: the count of all rows, under a name that does
not say so any more. -/
structure IsRenamedCount (x : Item) : Prop where
  /-- The item is the count of all rows. -/
  kind : x.kind = .countStar
  /-- It has no aggregate function of its own. -/
  groups : x.groupFunction ∉ GroupFunction.aggregates
  /-- Its name is that of something else. -/
  renamed : ¬x.BeginsAggregate

theorem isGroupKey_countStar {x : Item} (hkind : x.kind = .countStar) :
    x.isGroupKey = true ↔ x.IsRenamedCount := by
  rw [isGroupKey_iff]
  constructor
  · rintro ⟨hgroups, hname⟩
    exact ⟨hkind, hgroups, fun hbegins => hname ⟨by simp [hkind], hbegins⟩⟩
  · rintro ⟨-, hgroups, hrenamed⟩
    exact ⟨hgroups, fun hname => hrenamed hname.2⟩

end Item

namespace Query

variable {q : Query} {style : Style}

/-! ### Expressions in the selection -/

/-- The count of all rows. -/
def countExpr : Expr := [.raw "COUNT(*)"]

/-- The expression of an item between the parentheses of its aggregate function. -/
def wrappedExpr (q : Query) (style : Style) (x : Item) : Expr :=
  [.function x.groupFunction.word, .lparen] ++ q.plainExpr style x ++ [.rparen]

/-- **Aggregates in the selection.** What makes the expression of an item an aggregate. -/
inductive RendersAggregate (q : Query) (style : Style) (x : Item) : Prop where
  /-- It is wrapped in the item's function. -/
  | wrapped (hfunction : x.groupFunction ∈ GroupFunction.aggregates)
    (hexpr : q.selectedExpr style x = q.wrappedExpr style x)
  /-- It is the count of all rows. -/
  | count (hkind : x.kind = .countStar) (hexpr : q.selectedExpr style x = countExpr)
  /-- It is a text that begins like an aggregate. -/
  | text (hkind : x.kind = .constant) (hbegins : x.BeginsAggregate)

theorem isAggregated_iff (hgrouping : q.grouping = true) (x : Item) :
    q.isAggregated x = true ↔
      x.groupFunction ∈ GroupFunction.aggregates ∧ x.kind ≠ .countStar := by
  rw [isAggregated, hgrouping, Bool.true_and, Bool.and_eq_true, bne_iff_ne,
    GroupFunction.isAggregate_iff]

theorem selectedExpr_of_aggregated {x : Item} (h : q.isAggregated x = true) :
    q.selectedExpr style x = q.wrappedExpr style x := by
  rw [selectedExpr, itemExpr, if_pos h, wrappedExpr]

theorem selectedExpr_of_not_aggregated {x : Item} (h : ¬q.isAggregated x = true) :
    q.selectedExpr style x = q.plainExpr style x := by
  rw [selectedExpr, itemExpr, if_neg h]

theorem plainExpr_countStar {x : Item} (hkind : x.kind = .countStar) :
    q.plainExpr style x = countExpr := by
  rw [plainExpr, qualifierTokens, qualifyingTable?, if_neg (by simp [hkind]), Dialect.itemText,
    hkind, List.nil_append, countExpr]

theorem selectedExpr_countStar {x : Item} (hkind : x.kind = .countStar) :
    q.selectedExpr style x = countExpr := by
  rw [selectedExpr_of_not_aggregated (by simp [isAggregated, hkind]), plainExpr_countStar hkind]

theorem selectedExpr_of_groupKey {x : Item} (h : x.isGroupKey = true) :
    q.selectedExpr style x = q.plainExpr style x := by
  have hfunction : x.groupFunction.isAggregate = false := by
    simpa using (Bool.and_eq_true_iff.mp h).1
  exact selectedExpr_of_not_aggregated (by simp [isAggregated, hfunction])

/-! ### The two tests -/

theorem rendersAggregate_iff (hgrouping : q.grouping = true) (style : Style) (x : Item) :
    q.RendersAggregate style x ↔
      x.kind = .countStar ∨ x.groupFunction ∈ GroupFunction.aggregates ∨
        x.kind = .constant ∧ x.BeginsAggregate := by
  constructor
  · rintro (⟨hfunction, -⟩ | ⟨hkind, -⟩ | ⟨hkind, hbegins⟩)
    · exact .inr (.inl hfunction)
    · exact .inl hkind
    · exact .inr (.inr ⟨hkind, hbegins⟩)
  · intro h
    -- the count comes first, since a function of its own is not written around it
    by_cases hkind : x.kind = .countStar
    · exact .count hkind (selectedExpr_countStar hkind)
    · rcases h.resolve_left hkind with hfunction | ⟨hconstant, hbegins⟩
      · refine .wrapped hfunction (selectedExpr_of_aggregated ?_)
        exact (isAggregated_iff hgrouping x).mpr ⟨hfunction, hkind⟩
      · exact .text hconstant hbegins

/-- **Keys and aggregates.** While the query groups its rows, an item is a key just if its
expression is no aggregate, except that a renamed count of all rows is a key as well. -/
theorem isGroupKey_iff (hgrouping : q.grouping = true) (style : Style) (x : Item) :
    x.isGroupKey = true ↔ ¬q.RendersAggregate style x ∨ x.IsRenamedCount := by
  rw [rendersAggregate_iff hgrouping]
  by_cases hkind : x.kind = .countStar
  · -- the one test looks at the kind here, and the other one at the name
    rw [Item.isGroupKey_countStar hkind, or_iff_right (not_not_intro (.inl hkind))]
  · have hname : x.kind ≠ .column ∧ x.BeginsAggregate ↔ x.kind = .constant ∧ x.BeginsAggregate := by
      cases hx : x.kind <;> simp_all
    rw [or_iff_left fun h : x.IsRenamedCount => hkind h.kind, or_iff_right hkind, not_or,
      Item.isGroupKey_iff, hname]

/-! ### The lists -/

theorem groupKeys_eq (q : Query) (style : Style) :
    q.groupKeys style = (q.selectedItems.filter Item.isGroupKey).map (q.selectedExpr style) := by
  have hfilter : (fun x : Item => !x.groupFunction.isAggregate && !x.isPreAggregated) =
      Item.isGroupKey := rfl
  rw [groupKeys, hfilter]
  exact List.map_congr_left fun x hx =>
    (selectedExpr_of_groupKey (List.of_mem_filter hx)).symm

/-- The grouping keys are read behind `GROUP BY`, while the query groups its rows. -/
theorem Coherent.under_groupBy (h : q.Coherent) (hgrouping : q.grouping = true) (style : Style) :
    Token.under .groupBy .comma (q.structuralTokens style) =
      (q.selectedItems.filter Item.isGroupKey).map (q.selectedExpr style) := by
  by_cases hsel : q.selection = []
  · -- without a selection nothing is written, and there are no keys
    have hitems : q.selectedItems = [] := by
      have hids := h.selectedItems_ids
      rwa [hsel, List.map_eq_nil_iff] at hids
    rw [structuralTokens, hsel, hitems]
    rfl
  · have hkeys : (q.statement style).groupKeys = q.groupKeys style := by
      rw [statement, if_pos hgrouping]
    rw [structuralTokens_of_selection hsel, (h.statement_readable hsel style).under_groupBy, hkeys,
      groupKeys_eq, List.map_map]
    exact List.map_congr_left fun x _ => words_selectedExpr x

/-- **Keys of a grouping.** Take a query that a history comes to and that groups its rows. The
members of its selection are the expressions of the selected items, and the grouping keys, which are
read behind `GROUP BY` in the tokens of its statement, are some of the same expressions in the same
order: those of the items that are no aggregates there and of the count of all rows, if it is
renamed.

So keys and aggregates are complete and disjoint as long as the count of all rows keeps a name that
begins like an aggregate. Under another name it is both. -/
theorem Reachable.groupKeys_partition (h : q.Reachable) (hgrouping : q.grouping = true)
    (style : Style) :
    q.selectedItems.map (·.id) = q.selection ∧
    (q.statement style).members.map (·.expr) = q.selectedItems.map (q.selectedExpr style) ∧
    (q.statement style).groupKeys =
      (q.selectedItems.filter Item.isGroupKey).map (q.selectedExpr style) ∧
    Token.under .groupBy .comma (q.structuralTokens style) =
      (q.selectedItems.filter Item.isGroupKey).map (q.selectedExpr style) ∧
    ∀ x ∈ q.selectedItems,
      (x.isGroupKey = true ↔ ¬q.RendersAggregate style x ∨ x.IsRenamedCount) ∧
      (x.kind = .countStar → q.selectedExpr style x = countExpr) := by
  refine ⟨h.coherent.selectedItems_ids, ?_, ?_, h.coherent.under_groupBy hgrouping style,
    fun x _ => ⟨isGroupKey_iff hgrouping style x, ?_⟩⟩
  · rw [statement, List.map_map]
    rfl
  · rw [statement, if_pos hgrouping, groupKeys_eq]
  · exact selectedExpr_countStar

end Query

/-- A history that selects a column and the count of all rows, gives the count another name, and
groups the rows. -/
def Edit.sampleRenamedCount : List Edit :=
  [.addTable { Container.table ⟨.ofNat 10⟩ "orders" with
      items := [{ Item.column ⟨.ofNat 11⟩ "region" with selected := true }] },
    .setItemSelected ⟨(IdSupply.after 0).sequence 5⟩ true,
    .renameItem ⟨(IdSupply.after 0).sequence 5⟩ "rows",
    .setGrouping true]

namespace Session

/-- The query that this history comes to. -/
def queryRenamedCount : Query :=
  ((ofQuery ((Query.new "sample").run (IdSupply.after 0)).1).run Edit.sampleRenamedCount).query

theorem queryRenamedCount_reachable : queryRenamedCount.Reachable := by
  refine run_new_reachable fun e he => ?_
  revert e
  simp [Edit.sampleRenamedCount, Edit.WellFormed, Container.table]

/-- **A statement may group by the count of all rows**: in every style, the count is a key here. -/
theorem groups_by_count :
    queryRenamedCount.Reachable ∧ queryRenamedCount.grouping = true ∧
      queryRenamedCount.selection ≠ [] ∧
      ∀ style, (queryRenamedCount.statement style).groupKeys =
          [[.ident "orders", .dot, .raw (quoteIdentifier style.quote "region")],
            Query.countExpr] ∧
        Token.under .groupBy .comma (queryRenamedCount.structuralTokens style) =
          [[.ident "orders", .dot, .raw (quoteIdentifier style.quote "region")],
            Query.countExpr] := by
  refine ⟨queryRenamedCount_reachable, by decide, by decide, fun style => ⟨rfl, ?_⟩⟩
  rw [queryRenamedCount_reachable.coherent.under_groupBy (by decide) style]
  rfl

end Session

/-- In the sample the count is an aggregate and a key. -/
theorem Query.groupKeys_partition_sample :
    Session.queryRenamedCount.Reachable ∧ Session.queryRenamedCount.grouping = true ∧
      ∃ x ∈ Session.queryRenamedCount.selectedItems, x.isGroupKey = true ∧
        Session.queryRenamedCount.RendersAggregate ⟨.generic, ""⟩ x := by
  have hgrouping : Session.queryRenamedCount.grouping = true := by decide
  obtain ⟨-, -, -, -, hitems⟩ :=
    Session.queryRenamedCount_reachable.groupKeys_partition hgrouping ⟨.generic, ""⟩
  let x : Item := { Item.countStar ⟨(IdSupply.after 0).sequence 5⟩ with
    name := "rows", selected := true, parent := some ⟨(IdSupply.after 0).sequence 1⟩ }
  have hx : x ∈ Session.queryRenamedCount.selectedItems := by decide
  -- renamed to a name that begins with no aggregate, while the text written is still the count
  have hrenamed : x.IsRenamedCount :=
    ⟨rfl, by decide, by rw [Item.BeginsAggregate]; decide⟩
  obtain ⟨hkey, hcount⟩ := hitems x hx
  exact ⟨Session.queryRenamedCount_reachable, hgrouping, x, hx, hkey.mpr (.inr hrenamed),
    .count rfl (hcount rfl)⟩

end VisualQuery
