import VisualQuery.Proofs.Query.Settings
import VisualQuery.Proofs.Sql.FromClause

/-!
# Blank texts in a statement

The setters take a blank text for none, but a table or an item may be added, or loaded, with any
text. So every reader of an optional text has to look after blanks itself. The filters do
(`Item.filter?`, `Item.having?`); an alias is only compared with the empty text (`Item.alias?`,
`Container.alias?`), and an alias that consists of blanks is written into the statement.

Here the texts of a query are replaced by what is left of them without blanks, filters always, and
aliases by a function that is left open (`Query.reword`): it may drop what the accessors drop
(`Text.nonEmpty`) or what the setters drop (`Text.nonBlank`). Nothing else is changed, so what is
looked up leads to the reworded containers and items. The statement reads aliases of tables and of
selected items only, so it stays the same if these read the same (`Reworded.statement`). The
converse holds as well: each of the tables is named in the statement and each of the selected items
is a member of it, both with their aliases (`Coherent.reads_of_statement`).
-/

namespace VisualQuery

/-- An alias that consists of blanks, but is not empty. -/
def Text.Blanks (text : Option String) : Prop :=
  ∃ s, text = some s ∧ s.isEmpty = false ∧ isBlankText s = true

theorem Text.not_blanks_none : ¬ Blanks none := fun ⟨s, hs, _⟩ => Option.some_ne_none s hs.symm

theorem Text.blanks_some_iff {s : String} :
    Blanks (some s) ↔ s.isEmpty = false ∧ isBlankText s = true :=
  ⟨fun ⟨_, ht, hboth⟩ => Option.some.inj ht ▸ hboth, fun hboth => ⟨s, rfl, hboth⟩⟩

instance : DecidablePred Text.Blanks
  | none => isFalse Text.not_blanks_none
  | some _ => decidable_of_iff' _ Text.blanks_some_iff

/-- What the setters keep of an alias is what its accessor shows, unless it consists of blanks. -/
theorem Text.nonEmpty_nonBlank_iff (text : Option String) :
    nonEmpty (nonBlank text) = nonEmpty text ↔ ¬ Blanks text := by
  cases text with
  | none => exact ⟨fun _ => not_blanks_none, fun _ => rfl⟩
  | some s =>
    rw [blanks_some_iff, nonEmpty, nonEmpty, nonBlank, Option.filter_some, Option.filter_some]
    -- the empty text is dropped by either; between the two stand the blank texts
    cases hs : s.isEmpty with
    | true =>
      have hempty : isBlankText s = true := by
        rw [String.isEmpty_iff.mp hs]
        rfl
      simp [hempty]
    | false => cases isBlankText s <;> simp [hs]

/-- The name of an aggregated item without an alias does not consist of blanks. -/
theorem isBlankText_aggregate (f : GroupFunction) (name : String) :
    Text.isBlankText (f.word ++ "_" ++ name) = false := by
  rw [Text.isBlankText, String.toList_append, String.toList_append, List.all_append,
    List.all_append]
  -- the line between the two is a character of its own
  have hline : "_".toList.all Text.isBlank = false := by decide
  rw [hline, Bool.and_false, Bool.false_and]

/-! ### Rewording -/

/-- The item without blank filters, and with another alias. -/
def Item.reword (a : Option String → Option String) (x : Item) : Item :=
  { x with
    aliasText := a x.aliasText, whereText := Text.nonBlank x.whereText
    havingText := Text.nonBlank x.havingText }

/-- The container with its items reworded, and with another alias. -/
def Container.reword (a : Option String → Option String) (c : Container) : Container :=
  { c with aliasText := a c.aliasText, items := c.items.map (Item.reword a) }

/-- The query with its containers reworded. -/
def Query.reword (a : Option String → Option String) (q : Query) : Query :=
  q.mapContainers (Container.reword a)

theorem Item.filter?_reword (a : Option String → Option String) (x : Item) :
    (x.reword a).filter? = x.filter? := by
  show Text.nonBlank (Text.nonBlank x.whereText) = Text.nonBlank x.whereText
  exact Text.nonBlank_nonBlank x.whereText

theorem Item.having?_reword (a : Option String → Option String) (x : Item) :
    (x.reword a).having? = x.having? := by
  show Text.nonBlank (Text.nonBlank x.havingText) = Text.nonBlank x.havingText
  exact Text.nonBlank_nonBlank x.havingText

theorem Container.item?_reword (a : Option String → Option String) (c : Container) (id : ItemId) :
    (c.reword a).item? id = (c.item? id).map (Item.reword a) := by
  unfold item? reword
  rw [List.find?_map]
  rfl

namespace Query

variable {q : Query} (a : Option String → Option String)

/-! ### Looking things up -/

theorem container?_reword (c : ContainerId) :
    (q.reword a).container? c = (q.container? c).map (Container.reword a) := by
  rw [container?_eq_find?, container?_eq_find?, reword, containers_mapContainers, List.find?_map]
  rfl

theorem containerOf?_reword (x : ItemId) :
    (q.reword a).containerOf? x = (q.containerOf? x).map (Container.reword a) := by
  have hindex : (q.reword a).itemIndex = q.itemIndex := rfl
  rw [containerOf?, containerOf?, hindex, Option.map_bind]
  exact congrArg (Option.bind _) (funext fun c => container?_reword a c)

theorem item?_reword (x : ItemId) :
    (q.reword a).item? x = (q.item? x).map (Item.reword a) := by
  rw [item?, item?, containerOf?_reword, Option.bind_map, Option.map_bind]
  exact congrArg (Option.bind _) (funext fun k => k.item?_reword a x)

theorem items_reword : (q.reword a).items = q.items.map (Item.reword a) := by
  rw [items, items, reword, containers_mapContainers, List.flatMap_map, List.map_flatMap]
  rfl

theorem table?_reword (c : ContainerId) :
    (q.reword a).table? c = (q.table? c).map (Container.reword a) := by
  rw [table?, table?, reword, mapContainers, List.find?_map]
  rfl

theorem itemsInOrder_reword :
    (q.reword a).itemsInOrder = q.itemsInOrder.map (Item.reword a) := by
  have htables : (q.reword a).fromTables = q.fromTables.map (Container.reword a) := by
    rw [fromTables, fromTables, List.map_filterMap]
    exact congrArg (List.filterMap · _) (funext fun c => table?_reword a c)
  rw [itemsInOrder, itemsInOrder, htables, List.map_flatMap, List.flatMap_cons, List.flatMap_cons,
    List.flatMap_map]
  rfl

theorem filterMap_item?_reword (ids : List ItemId) :
    ids.filterMap (q.reword a).item? = (ids.filterMap q.item?).map (Item.reword a) := by
  rw [List.map_filterMap]
  exact congrArg (List.filterMap · ids) (funext fun x => item?_reword a x)

theorem selectedItems_reword :
    (q.reword a).selectedItems = q.selectedItems.map (Item.reword a) :=
  filterMap_item?_reword a q.selection

theorem finishOrder_reword : (q.reword a).finishOrder = q.finishOrder := by
  rfl

theorem tablesInOrder_reword :
    (q.reword a).tablesInOrder = q.tablesInOrder.map (Container.reword a) := by
  rw [tablesInOrder, tablesInOrder, finishOrder_reword, List.map_filterMap]
  exact congrArg (List.filterMap · _) (funext fun c => container?_reword a c)

/-- **The aliases that a statement reads stay the same**: those of the tables and of the selected
items. -/
structure Reworded (q : Query) : Prop where
  /-- The query has the invariant. -/
  coherent : q.Coherent
  /-- The alias of each table reads the same. -/
  tables : ∀ k ∈ q.tables, (k.reword a).alias? = k.alias?
  /-- So does that of each selected item. -/
  selected : ∀ x ∈ q.items, x.selected = true → (x.reword a).alias? = x.alias?

namespace Reworded

variable {a} (h : q.Reworded a)
include h

/-! ### Expressions -/

/-- An item is qualified with a table of the from-list. -/
theorem qualifierTokens (x : Item) :
    (q.reword a).qualifierTokens (x.reword a) = q.qualifierTokens x := by
  have hkind : (x.reword a).kind = x.kind := rfl
  have hid : (x.reword a).id = x.id := rfl
  have hqualifying : (q.reword a).qualifyingTable? (x.reword a) =
      (q.qualifyingTable? x).map (Container.reword a) := by
    rw [qualifyingTable?, qualifyingTable?, hkind, hid, containerOf?_reword]
    split
    · rw [Option.filter_map]
      rfl
    · rfl
  rw [Query.qualifierTokens, Query.qualifierTokens, hqualifying]
  cases hk : q.qualifyingTable? x with
  | none => rfl
  | some k =>
    -- what is found is no constants container, and then it is on the from-list
    have htable : k ∈ q.tables := by
      rw [qualifyingTable?] at hk
      split at hk
      · obtain ⟨hfound, hplain⟩ := Option.filter_eq_some_iff.mp hk
        have hkq := (h.coherent.housed.containerOf?_iff.mp hfound).1
        refine (List.mem_cons.mp hkq).resolve_left fun heq => ?_
        rw [heq, h.coherent.constants_kind] at hplain
        exact Bool.false_ne_true hplain
      · exact absurd hk (Option.some_ne_none k).symm
    rw [Option.map_some]
    dsimp only
    rw [h.tables k htable]
    rfl

theorem plainExpr (style : Style) (x : Item) :
    (q.reword a).plainExpr style (x.reword a) = q.plainExpr style x := by
  rw [Query.plainExpr, Query.plainExpr, h.qualifierTokens]
  rfl

theorem selectedExpr (style : Style) (x : Item) :
    (q.reword a).selectedExpr style (x.reword a) = q.selectedExpr style x := by
  have haggregated : (q.reword a).isAggregated (x.reword a) = q.isAggregated x := rfl
  rw [Query.selectedExpr, Query.selectedExpr, itemExpr, itemExpr, haggregated, h.plainExpr]
  rfl

/-! ### Tables -/

theorem condition? (style : Style) (j : Join) :
    (q.reword a).condition? style j = q.condition? style j := by
  rw [Query.condition?, Query.condition?, item?_reword, item?_reword]
  cases q.item? j.left.item with
  | none => rfl
  | some left =>
    cases q.item? j.right.item with
    | none => rfl
    | some right =>
      show some _ = some _
      rw [h.plainExpr, h.plainExpr]

theorem tableRef {k : Container} (hk : k ∈ q.tables) :
    Query.tableRef (k.reword a) = Query.tableRef k := by
  rw [Query.tableRef, h.tables k hk]
  rfl

theorem joinedTable (style : Style) (earlier : List ContainerId) (previous : ContainerId)
    {k : Container} (hk : k ∈ q.tables) (c : ContainerId) :
    (q.reword a).joinedTable style earlier previous (k.reword a) c =
      q.joinedTable style earlier previous k c := by
  have hconditions : (q.reword a).condition? style = q.condition? style :=
    funext (h.condition? style)
  rw [Query.joinedTable, Query.joinedTable, h.tableRef hk, hconditions]
  rfl

theorem joinedTables (style : Style) (earlier : List ContainerId) (previous : ContainerId)
    {rest : List ContainerId} (hrest : ∀ c ∈ rest, c ∈ q.finishOrder) :
    (q.reword a).joinedTables style earlier previous rest =
      q.joinedTables style earlier previous rest := by
  induction rest generalizing earlier previous with
  | nil => rfl
  | cons c rest ih =>
    -- every table of the order is found, so the alias that is written is one that was compared
    obtain ⟨k, hk, -, hfound⟩ := h.coherent.container?_finishOrder (hrest c List.mem_cons_self)
    have htail := ih (earlier ++ [c]) c fun d hd => hrest d (List.mem_cons_of_mem _ hd)
    rw [Query.joinedTables, Query.joinedTables, htail, container?_reword, hfound, Option.map_some,
      Option.map_some, Option.map_some, h.joinedTable style earlier previous hk]

theorem fromClause? (style : Style) :
    (q.reword a).fromClause? style = q.fromClause? style := by
  rw [Query.fromClause?, Query.fromClause?, finishOrder_reword]
  cases horder : q.finishOrder with
  | nil => rfl
  | cons c rest =>
    have hall : ∀ d ∈ c :: rest, d ∈ q.finishOrder := fun d hd => horder ▸ hd
    obtain ⟨k, hk, -, hfound⟩ := h.coherent.container?_finishOrder (hall c List.mem_cons_self)
    have htables := h.joinedTables style [c] c fun d hd => hall d (List.mem_cons_of_mem _ hd)
    dsimp only
    rw [container?_reword, hfound, Option.map_some, Option.map_some, Option.map_some,
      h.tableRef hk, htables]

/-! ### The statement -/

theorem filters (style : Style) : (q.reword a).filters style = q.filters style := by
  rw [Query.filters, Query.filters, itemsInOrder_reword, List.filterMap_map]
  refine congrArg (· ++ _) (congrArg (List.filterMap · _) (funext fun x => ?_))
  rw [Function.comp_apply, h.plainExpr, x.filter?_reword]

theorem groupKeys (style : Style) : (q.reword a).groupKeys style = q.groupKeys style := by
  rw [Query.groupKeys, Query.groupKeys, selectedItems_reword, List.filter_map, List.map_map]
  exact congrArg (List.map · _) (funext (h.plainExpr style))

theorem groupFilters (style : Style) :
    (q.reword a).groupFilters style = q.groupFilters style := by
  rw [Query.groupFilters, Query.groupFilters, selectedItems_reword, List.filterMap_map]
  refine congrArg (List.filterMap · _) (funext fun x => ?_)
  rw [Function.comp_apply, h.selectedExpr, x.having?_reword]

theorem sortKeys (style : Style) : (q.reword a).sortKeys style = q.sortKeys style := by
  have hkeys : (q.reword a).sortList.filterMap (q.reword a).item? =
      (q.sortList.filterMap q.item?).map (Item.reword a) := filterMap_item?_reword a q.sortList
  rw [Query.sortKeys, Query.sortKeys, hkeys, List.map_map]
  refine congrArg (List.map · _) (funext fun x => ?_)
  rw [Function.comp_apply, h.selectedExpr]
  rfl

/-- Every member of the selection is a selected item. -/
theorem member (style : Style) {x : Item} (hx : x ∈ q.selectedItems) :
    (q.reword a).member style (x.reword a) = q.member style x := by
  have halias : (x.reword a).alias? = x.alias? := by
    obtain ⟨id, hid, hfound⟩ := List.mem_filterMap.mp hx
    obtain ⟨hxq, rfl⟩ := h.coherent.housed.item?_iff.mp hfound
    exact h.selected x hxq ((h.coherent.mem_selection hxq).mp hid)
  rw [Query.member, Query.member, h.selectedExpr, halias]
  rfl

/-- **The statement stays the same if the aliases that it reads do.** -/
theorem statement (style : Style) : (q.reword a).statement style = q.statement style := by
  have hmembers : (q.reword a).selectedItems.map ((q.reword a).member style) =
      q.selectedItems.map (q.member style) := by
    rw [selectedItems_reword, List.map_map]
    exact List.map_congr_left fun x hx => h.member style hx
  rw [Query.statement, Query.statement, hmembers, h.fromClause?, h.filters, h.groupKeys,
    h.groupFilters, h.sortKeys]
  rfl

theorem generateStructural (style : Style) :
    (q.reword a).generateStructural style = q.generateStructural style := by
  rw [Query.generateStructural, Query.generateStructural, structuralTokens, structuralTokens,
    h.statement]
  rfl

end Reworded

/-! ### Aliases that a statement shows -/

/-- A reworded query has the invariant, which does not read optional texts. -/
theorem Coherent.reword (h : q.Coherent) : (q.reword a).Coherent := by
  -- an alias is read by no list and by no index, so every part carries over
  have hhoused : Housed (q.reword a).containers (q.reword a).itemIndex := by
    have hitems := h.housed.mapItems (g := Item.reword a) (fun _ => rfl) fun _ => rfl
    have hall := hitems.mapContainers (f := fun k => { k with aliasText := a k.aliasText })
      fun _ => ⟨rfl, rfl⟩
    rwa [List.map_map] at hall
  have hselection := h.selection.map (g := Item.reword a) (fun _ _ => rfl) fun _ _ => rfl
  have hsort := h.sortList.map (g := Item.reword a) (fun _ _ => rfl) fun _ _ => rfl
  rw [← items_reword a] at hselection hsort
  refine ⟨?_, hhoused, h.constants_kind, ?_, hselection, hsort, h.joins, ?_, h.globalWhere⟩
  · exact (Container.map_ids (f := Container.reword a) (fun _ => rfl) q.tables).trans h.mapped
  · intro k' hk'
    obtain ⟨k, hk, rfl⟩ := List.mem_map.mp hk'
    exact h.tables_kind k hk
  · intro j hj side
    refine Coherent.holdsEnd_mono h.housed hhoused (fun k hk _ hitem => ?_) (h.ends j hj side)
    refine ⟨k.reword a, List.mem_map_of_mem hk, rfl, ?_⟩
    show _ ∈ (k.items.map (Item.reword a)).map (·.id)
    rwa [List.map_map]

/-- An alias that is dropped is missed: no other one takes its place that looks the same. -/
theorem not_blanks_of_member {style : Style} {x : Item}
    (h : (q.reword Text.nonBlank).member style (x.reword Text.nonBlank) = q.member style x) :
    ¬ Text.Blanks x.aliasText := by
  rintro ⟨s, hs, hfull, hblank⟩
  have hshown : x.alias? = some s := by
    unfold Item.alias? Text.nonEmpty
    rw [hs, Option.filter_some, hfull]
    rfl
  have hdropped : (x.reword Text.nonBlank).alias? = none := by
    show Text.nonEmpty (Text.nonBlank x.aliasText) = none
    rw [hs, Text.nonBlank, Option.filter_some, hblank]
    rfl
  have halias := congrArg Member.aliasName h
  unfold member at halias
  rw [hshown, hdropped] at halias
  dsimp only at halias
  -- what an aggregated item is called instead does not consist of blanks
  split at halias
  · rw [← Option.some.inj halias, isBlankText_aggregate] at hblank
    exact Bool.false_ne_true hblank
  · exact Option.some_ne_none s halias.symm

/-- **The statement stays the same without blank aliases exactly if no alias that it shows is
one.** -/
theorem Coherent.statement_nonBlank_iff (h : q.Coherent) (style : Style) :
    (q.reword Text.nonBlank).statement style = q.statement style ↔
      (∀ k ∈ q.tables, ¬ Text.Blanks k.aliasText) ∧
        ∀ x ∈ q.items, x.selected = true → ¬ Text.Blanks x.aliasText := by
  constructor
  · intro hsame
    constructor
    · -- the tables are named in the order of the statement, each with its alias
      intro k hk
      have hnamed := congrArg Statement.namedTables hsame
      rw [(h.reword Text.nonBlank).namedTables_eq, h.namedTables_eq, tablesInOrder_reword,
        List.map_map] at hnamed
      have href := List.map_inj_left.mp hnamed k (h.tablesInOrder_perm.mem_iff.mpr hk)
      exact (Text.nonEmpty_nonBlank_iff k.aliasText).mp (congrArg TableRef.aliasName href)
    · intro x hx hselected
      have hmembers := congrArg Statement.members hsame
      have hitems : (q.reword Text.nonBlank).selectedItems.map
          ((q.reword Text.nonBlank).member style) = q.selectedItems.map (q.member style) := hmembers
      rw [selectedItems_reword, List.map_map] at hitems
      have hmem : x ∈ q.selectedItems := List.mem_filterMap.mpr
        ⟨x.id, (h.mem_selection hx).mpr hselected, h.item?_of_mem hx⟩
      exact not_blanks_of_member (List.map_inj_left.mp hitems x hmem)
  · rintro ⟨htables, hselected⟩
    have hreworded : q.Reworded Text.nonBlank :=
      ⟨h, fun k hk => (Text.nonEmpty_nonBlank_iff k.aliasText).mpr (htables k hk),
        fun x hx hx' => (Text.nonEmpty_nonBlank_iff x.aliasText).mpr (hselected x hx hx')⟩
    exact hreworded.statement style

/-- Empty aliases and blank filters are never shown. -/
theorem Coherent.reworded_nonEmpty (h : q.Coherent) : q.Reworded Text.nonEmpty := by
  have htwice : ∀ text, Text.nonEmpty (Text.nonEmpty text) = Text.nonEmpty text := by
    intro text
    rw [Text.nonEmpty, Text.nonEmpty, Option.filter_filter]
    simp only [Bool.and_self]
  exact ⟨h, fun k _ => htwice k.aliasText, fun x _ _ => htwice x.aliasText⟩

/-- **Of the blank texts of a query a statement shows aliases only.** At every query that a history
comes to, whatever texts its tables and items were added with, and in every style:

* dropping the empty aliases and the blank filters, those on groups included, leaves the statement
  as it is, part by part and as a text;
* dropping the aliases that consist of blanks as well, as the setters do, leaves its parts as they
  are if and only if no table of the from-list and no selected item has such an alias;
* if none has, or if nothing is selected, the text stays the same. -/
theorem Reachable.statement_withoutBlanks (h : q.Reachable) (style : Style) :
    ((q.reword Text.nonEmpty).statement style = q.statement style ∧
      (q.reword Text.nonEmpty).generateStructural style = q.generateStructural style) ∧
    ((q.reword Text.nonBlank).statement style = q.statement style ↔
      (∀ k ∈ q.tables, ¬ Text.Blanks k.aliasText) ∧
        ∀ x ∈ q.items, x.selected = true → ¬ Text.Blanks x.aliasText) ∧
    ((q.selection ≠ [] → (∀ k ∈ q.tables, ¬ Text.Blanks k.aliasText) ∧
        ∀ x ∈ q.items, x.selected = true → ¬ Text.Blanks x.aliasText) →
      (q.reword Text.nonBlank).generateStructural style = q.generateStructural style) := by
  have hcoh := h.coherent
  refine ⟨⟨hcoh.reworded_nonEmpty.statement style, hcoh.reworded_nonEmpty.generateStructural style⟩,
    hcoh.statement_nonBlank_iff style, fun hnone => ?_⟩
  have hselection : (q.reword Text.nonBlank).selection = q.selection := rfl
  unfold Query.generateStructural structuralTokens
  rw [hselection]
  -- with nothing selected no text is written at all, whatever the aliases are
  by_cases hsel : q.selection = []
  · rw [hsel]
    rfl
  · rw [(hcoh.statement_nonBlank_iff style).mpr (hnone hsel)]

end Query

/-- A history that adds a table with one selected column, under the given aliases and with a
filter. -/
def Edit.sampleTexts (tableAlias itemAlias filter : Option String) : List Edit :=
  [.addTable { Container.table ⟨.ofNat 10⟩ "orders" with
      aliasText := tableAlias
      items := [{ Item.column ⟨.ofNat 11⟩ "number" with
        selected := true, aliasText := itemAlias, whereText := filter }] }]

namespace Session

open Query

/-- The query that such a history comes to. -/
def queryTexts (tableAlias itemAlias filter : Option String) : Query :=
  ((ofQuery ((Query.new "sample").run (IdSupply.after 0)).1).run
    (Edit.sampleTexts tableAlias itemAlias filter)).query

theorem queryTexts_reachable (tableAlias itemAlias filter : Option String) :
    (queryTexts tableAlias itemAlias filter).Reachable := by
  refine run_new_reachable fun e he => ?_
  rw [List.mem_singleton.mp he]
  exact List.nodup_singleton _

theorem queryTexts_finishOrder (tableAlias itemAlias filter : Option String) :
    (queryTexts tableAlias itemAlias filter).finishOrder = [⟨.ofNat 10⟩] := by
  have hperm := (queryTexts_reachable tableAlias itemAlias filter).coherent.finishOrder_perm
  exact List.perm_singleton.mp hperm

/-- The statement of a query with one table. -/
theorem generateStructural_of_finishOrder {q : Query} {c : ContainerId} (h : q.finishOrder = [c])
    (style : Style) :
    q.generateStructural style = Token.render style.quote
      (if q.selection.isEmpty then []
      else Statement.tokens { q.statement style with
        tables := (q.container? c).map fun k => ⟨tableRef k, []⟩ }) := by
  have hfrom : q.fromClause? style = (q.container? c).map fun k => ⟨tableRef k, []⟩ := by
    rw [fromClause?, h]
    rfl
  rw [generateStructural, structuralTokens, ← hfrom]
  rfl

/-- The empty alias and the blank filter do not show; the alias of the table does. -/
theorem statement_withoutBlanks_texts :
    (queryTexts (some "o") (some "") (some " ")).Reachable ∧
      (queryTexts (some "o") (some "") (some " ")).selection ≠ [] ∧
      ((queryTexts (some "o") (some "") (some " ")).reword Text.nonBlank).generateStructural
        ⟨.generic, ""⟩ = "SELECT o.number FROM orders o" := by
  have hreachable := queryTexts_reachable (some "o") (some "") (some " ")
  obtain ⟨-, -, hsame⟩ := hreachable.statement_withoutBlanks ⟨.generic, ""⟩
  refine ⟨hreachable, by decide, (hsame fun _ => ⟨by decide, by decide⟩).trans ?_⟩
  rw [generateStructural_of_finishOrder (queryTexts_finishOrder _ _ _)]
  decide

/-- **An alias of one blank is written**, and the statement cannot be run. Without it the column is
selected under its own name. -/
theorem blank_alias_written :
    (queryTexts none (some " ") none).Reachable ∧
      (queryTexts none (some " ") none).generateStructural ⟨.generic, ""⟩ =
        "SELECT orders.number AS   FROM orders" ∧
      ((queryTexts none (some " ") none).reword Text.nonBlank).generateStructural ⟨.generic, ""⟩ =
        "SELECT orders.number FROM orders" := by
  have horder := queryTexts_finishOrder none (some " ") none
  refine ⟨queryTexts_reachable _ _ _, ?_, ?_⟩
  · rw [generateStructural_of_finishOrder horder]
    decide
  · rw [generateStructural_of_finishOrder ((finishOrder_reword _).trans horder)]
    decide

end Session

end VisualQuery
