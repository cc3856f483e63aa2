import VisualQuery.Query.Basic
import VisualQuery.Sql.Token

/-!
# Statements

A statement in parts, before it is written: the members of the selection, the tables with the
conditions they are joined on, the filters, the grouping keys, the filters on groups and the sort
keys. `Query.statement` reads the parts off a query; `Statement.tokens` puts them in order.

Each table but the first is joined on one condition for every join that leads back to a table named
before it. A table without such a join is joined on `0 = 0`.
-/

namespace VisualQuery

/-- How a statement is written: the dialect and the quote for identifiers. -/
structure Style where
  /-- The dialect. -/
  dialect : Dialect
  /-- The quote for identifiers. -/
  quote : String
deriving DecidableEq, Repr

/-- The style for a data source; without one, the generic dialect without quotes. -/
def Style.ofSource : Option DataSource → Style
  | none => ⟨.generic, ""⟩
  | some source => ⟨.ofDriver source.driver, source.identifierQuote⟩

/-- An expression of a statement. -/
abbrev Expr := List Token

/-- A member of the selection. -/
structure Member where
  /-- The expression. -/
  expr : Expr
  /-- The alias it is given. -/
  aliasName : Option String
deriving DecidableEq, Repr

/-- A table where it is named. -/
structure TableRef where
  /-- The schema. -/
  schema : Option String
  /-- The name. -/
  name : String
  /-- The alias it is given. -/
  aliasName : Option String
deriving DecidableEq, Repr

/-- A condition of a join. -/
structure Condition where
  /-- The expression on the left. -/
  left : Expr
  /-- The comparator. -/
  comparator : Comparator
  /-- The expression on the right. -/
  right : Expr
deriving DecidableEq, Repr

/-- A table that is joined to the ones named before it. -/
structure JoinedTable where
  /-- The kind of the join. -/
  kind : JoinKind
  /-- The table. -/
  table : TableRef
  /-- The conditions. -/
  conditions : List Condition
deriving DecidableEq, Repr

/-- The tables of a statement. -/
structure FromClause where
  /-- The first table. -/
  first : TableRef
  /-- The tables joined to it. -/
  joined : List JoinedTable
deriving DecidableEq, Repr

/-- A sort key. -/
structure SortKey where
  /-- The expression. -/
  expr : Expr
  /-- The direction. -/
  order : SortOrder
deriving DecidableEq, Repr

/-- The parts of a statement. -/
structure Statement where
  /-- The members of the selection. -/
  members : List Member
  /-- The tables, if there are any. -/
  tables : Option FromClause
  /-- The filters. -/
  filters : List Expr
  /-- The grouping keys. -/
  groupKeys : List Expr
  /-- The filters on groups. -/
  groupFilters : List Expr
  /-- The sort keys. -/
  sortKeys : List SortKey
deriving DecidableEq, Repr

/-! ### Parts in order -/

namespace Statement

/-- What stands between the members of a list. -/
def comma : List Token := [.comma, .space]

/-- What stands between conditions. -/
def and : List Token := [.space, .and, .space]

/-- A member of the selection with its alias. -/
def memberTokens (m : Member) : List Token :=
  match m.aliasName with
  | none => m.expr
  | some name => m.expr ++ [.space, .as, .space, .aliasName name]

/-- A table with its alias. -/
def tableTokens (t : TableRef) : List Token :=
  match t.aliasName with
  | none => [.qualifiedIdent t.schema t.name]
  | some name => [.qualifiedIdent t.schema t.name, .space, .aliasName name]

/-- A condition. -/
def conditionTokens (c : Condition) : List Token :=
  c.left ++ [.space, .comparator c.comparator, .space] ++ c.right

/-- The condition that always holds. -/
def tautology : List Token := [.int 0, .space, .comparator .eq, .space, .int 0]

/-- The conditions of a joined table, or the one that always holds. -/
def conditionsTokens (cs : List Condition) : List Token :=
  if cs.isEmpty then tautology else Token.separated and (cs.map conditionTokens)

/-- A joined table with its conditions. -/
def joinedTokens (t : JoinedTable) : List Token :=
  [.space, .join t.kind, .space] ++ tableTokens t.table ++ [.space, .on, .space] ++
    conditionsTokens t.conditions

/-- A sort key with its direction. -/
def sortKeyTokens (k : SortKey) : List Token :=
  match k.order with
  | .ascending => k.expr ++ [.space, .asc]
  | .descending => k.expr ++ [.space, .desc]
  | .unordered => k.expr

/-- A clause: a space, its keyword, and its parts; nothing if it has no parts. -/
def clause (keyword : Token) (separator : List Token) (parts : List (List Token)) : List Token :=
  if parts.isEmpty then [] else [.space, keyword, .space] ++ Token.separated separator parts

/-- The tables of a statement. -/
def fromTokens : Option FromClause → List Token
  | none => []
  | some f => [.space, .from', .space] ++ tableTokens f.first ++ f.joined.flatMap joinedTokens

/-- The tokens of a statement. -/
def tokens (s : Statement) : List Token :=
  [.select, .space] ++ Token.separated comma (s.members.map memberTokens) ++
    fromTokens s.tables ++
    clause .where' and s.filters ++
    clause .groupBy comma s.groupKeys ++
    clause .having and s.groupFilters ++
    clause .orderBy comma (s.sortKeys.map sortKeyTokens)

end Statement

/-! ### Reading the parts off a query -/

namespace Query

/-- Whether an item is put into its aggregate function: while the query groups its rows, and unless
it is the count of all rows. -/
def isAggregated (q : Query) (x : Item) : Bool :=
  q.grouping && x.groupFunction.isAggregate && x.kind != .countStar

/-- The table an item is qualified with: the one that holds it, if it is a column. -/
def qualifyingTable? (q : Query) (x : Item) : Option Container :=
  if x.kind = .column then (q.containerOf? x.id).filter (!·.isConstants) else none

/-- The qualifier before an item: the table's alias as it is, or its name as an identifier. -/
def qualifierTokens (q : Query) (x : Item) : List Token :=
  match q.qualifyingTable? x with
  | none => []
  | some c =>
    match c.alias? with
    | some name => [.aliasName name, .dot]
    | none => [.ident c.name, .dot]

/-- The expression of an item by itself. -/
def plainExpr (q : Query) (style : Style) (x : Item) : Expr :=
  q.qualifierTokens x ++ [.raw (style.dialect.itemText style.quote x)]

/-- The expression of an item, inside its aggregate function if `wrap` is set. -/
def itemExpr (q : Query) (style : Style) (x : Item) (wrap : Bool) : Expr :=
  if wrap then [.function x.groupFunction.word, .lparen] ++ q.plainExpr style x ++ [.rparen]
  else q.plainExpr style x

/-- The expression of an item in the selection, in filters on groups and in sort keys. -/
def selectedExpr (q : Query) (style : Style) (x : Item) : Expr :=
  q.itemExpr style x (q.isAggregated x)

/-- A member of the selection. An item without an alias gets one if it is aggregated: the name of
the function and its own. -/
def member (q : Query) (style : Style) (x : Item) : Member :=
  { expr := q.selectedExpr style x
    aliasName :=
      match x.alias? with
      | some name => some name
      | none =>
        -- an aggregate has no name of its own in the rows
        if q.isAggregated x then some (x.groupFunction.word ++ "_" ++ x.name) else none }

/-- A table where it is named. -/
def tableRef (c : Container) : TableRef := ⟨c.schema?, c.name, c.alias?⟩

/-- The condition of a join, if both its items are known. -/
def condition? (q : Query) (style : Style) (j : Join) : Option Condition := do
  let left ← q.item? j.left.item
  let right ← q.item? j.right.item
  return ⟨q.plainExpr style left, j.comparator, q.plainExpr style right⟩

/-- The joins at a table that lead back to one of the tables named before it. -/
def joinsBack (q : Query) (earlier : List ContainerId) (c : ContainerId) : List Join :=
  (q.joins.joinsAt c).filter fun j =>
    ((j.otherContainer? c).map fun d => decide (d ∈ earlier)).getD false

/-- The kind of the join between two tables that are named one after the other: that of their
first join. -/
def joinKind (q : Query) (c previous : ContainerId) : JoinKind :=
  ((q.joins.joinsBetween c previous).head?.map (·.kind)).getD .inner

/-- A table joined to the ones named before it, the last of which is `previous`. -/
def joinedTable (q : Query) (style : Style) (earlier : List ContainerId) (previous : ContainerId)
    (c : Container) (id : ContainerId) : JoinedTable :=
  { kind := q.joinKind id previous
    table := tableRef c
    conditions := (q.joinsBack earlier id).filterMap (q.condition? style) }

/-- The tables behind the first one, in the order given. -/
def joinedTables (q : Query) (style : Style) (earlier : List ContainerId) (previous : ContainerId) :
    List ContainerId → List JoinedTable
  | [] => []
  | id :: rest =>
    -- a table that is not known adds nothing, but the ones behind it may still refer to it
    ((q.container? id).map fun c => q.joinedTable style earlier previous c id).toList ++
      q.joinedTables style (earlier ++ [id]) id rest

/-- The tables of the statement, in the order in which the search of the join graph finishes. -/
def fromClause? (q : Query) (style : Style) : Option FromClause :=
  match q.finishOrder with
  | [] => none
  | id :: rest => (q.container? id).map fun c =>
    ⟨tableRef c, q.joinedTables style [id] id rest⟩

/-- The filters: one for each item that has one, selected or not, and the one of the query. -/
def filters (q : Query) (style : Style) : List Expr :=
  (q.itemsInOrder.filterMap fun x =>
    x.filter?.map fun text => q.plainExpr style x ++ [.space, .raw text]) ++
    (q.globalWhere.map fun text => [.raw text]).toList

/-- The grouping keys: the selected items that are neither aggregated nor aggregates by
themselves. -/
def groupKeys (q : Query) (style : Style) : List Expr :=
  (q.selectedItems.filter fun x =>
    !x.groupFunction.isAggregate && !x.isPreAggregated).map (q.plainExpr style)

/-- The filters on groups: one for each selected item that has one. -/
def groupFilters (q : Query) (style : Style) : List Expr :=
  q.selectedItems.filterMap fun x =>
    x.having?.map fun text => q.selectedExpr style x ++ [.space, .raw text]

/-- The sort keys. -/
def sortKeys (q : Query) (style : Style) : List SortKey :=
  (q.sortList.filterMap q.item?).map fun x => ⟨q.selectedExpr style x, x.sortOrder⟩

/-- The parts of the query's statement. -/
def statement (q : Query) (style : Style) : Statement :=
  { members := q.selectedItems.map (q.member style)
    tables := q.fromClause? style
    filters := q.filters style
    groupKeys := if q.grouping then q.groupKeys style else []
    groupFilters := if q.grouping then q.groupFilters style else []
    sortKeys := q.sortKeys style }

/-- The tokens of the statement; none if nothing is selected. -/
def structuralTokens (q : Query) (style : Style) : List Token :=
  if q.selection.isEmpty then [] else (q.statement style).tokens

/-- The statement that the parts of the query give. -/
def generateStructural (q : Query) (style : Style) : String :=
  Token.render style.quote (q.structuralTokens style)

/-- The statement of the query: the text the user put in its place, or the generated one. -/
def generate (q : Query) (style : Style) : String :=
  q.userOverride.getD (q.generateStructural style)

/-- The style of the query's data source. -/
def style (q : Query) : Style := .ofSource q.source

end Query

end VisualQuery
