import VisualQuery.Document

/-!
# Documents as JSON

A document is one object, with a member for every field in a fixed order; what is missing is
`null`. Identities are written as UUIDs, and the place of an item tells its container, so that an
item does not name it.
-/

namespace VisualQuery

/-- The kinds of items and their names in a document. -/
def ItemKind.names : List (String × ItemKind) :=
  [("column", .column), ("constant", .constant), ("count_star", .countStar)]

/-- The name of a kind of items in a document. -/
def ItemKind.word : ItemKind → String
  | .column => "column"
  | .constant => "constant"
  | .countStar => "count_star"

/-- The name of a way to take part in grouping in a document. -/
def GroupFunction.code : GroupFunction → String
  | .groupBy => "GROUPBY"
  | .sum => "SUM"
  | .count => "COUNT"
  | .avg => "AVG"
  | .min => "MIN"
  | .max => "MAX"

/-- The ways to take part in grouping and their names in a document. -/
def GroupFunction.names : List (String × GroupFunction) :=
  (.groupBy :: aggregates).map fun f => (f.code, f)

/-- The name of a sort direction in a document. -/
def SortOrder.code : SortOrder → String
  | .ascending => "ascending"
  | .descending => "descending"
  | .unordered => "unordered"

/-- The sort directions and their names in a document. -/
def SortOrder.names : List (String × SortOrder) :=
  [.ascending, .descending, .unordered].map fun o => (o.code, o)

/-- The comparators and their names in a document. -/
def Comparator.names : List (String × Comparator) := all.map fun c => (c.word, c)

/-- An identifier as a value. -/
def Uuid.toJson (u : Uuid) : Json := .text u.toText

/-- An item as a value. -/
def Item.toJson (x : Item) : Json :=
  .object [
    ("id", x.id.uuid.toJson),
    ("name", .text x.name),
    ("kind", .text x.kind.word),
    ("alias", .ofText? x.aliasText),
    ("column_width", .ofOption (fun w => .ofNat w.toNat) x.columnWidth),
    ("selected", .bool x.selected),
    ("where_fragment", .ofText? x.whereText),
    ("group_function", .text x.groupFunction.code),
    ("having", .ofText? x.havingText),
    ("sort_order", .text x.sortOrder.code)]

/-- What a container stands for, as a value. -/
def ContainerKind.toJson : ContainerKind → Json
  | .table schema => .object [("type", .text "table"), ("schema", .ofText? schema)]
  | .constants => .object [("type", .text "constants")]

/-- A container as a value. -/
def Container.toJson (c : Container) : Json :=
  .object [
    ("id", c.id.uuid.toJson),
    ("name", .text c.name),
    ("alias", .ofText? c.aliasText),
    ("kind", c.kind.toJson),
    ("items", .array (c.items.map Item.toJson)),
    ("position", c.position.value)]

/-- An end of a join as a value. -/
def JoinEnd.toJson (e : JoinEnd) : Json :=
  .object [
    ("container", e.container.uuid.toJson),
    ("item", e.item.uuid.toJson),
    ("outer", .bool e.outer)]

/-- A join as a value. -/
def Join.toJson (j : Join) : Json :=
  .object [
    ("id", j.id.uuid.toJson),
    ("left", j.left.toJson),
    ("right", j.right.toJson),
    ("comparator", .text j.comparator.word),
    ("name", .ofText? j.name)]

namespace Document

/-- A document as a value. -/
def toJson (d : Document) : Json :=
  .object [
    ("id", d.id.uuid.toJson),
    ("name", .text d.name),
    ("constants", d.constants.toJson),
    ("tables", .array (d.tables.map Container.toJson)),
    ("joins", .array (d.joins.map Join.toJson)),
    ("selected_items", .array (d.selectedItems.map (·.uuid.toJson))),
    ("order_by_items", .array (d.orderByItems.map (·.uuid.toJson))),
    ("global_where", .ofText? d.globalWhere),
    ("grouping_enabled", .bool d.grouping),
    ("row_limit", .ofNat d.rowLimit.toNat),
    ("streaming_row_limit", .ofNat d.streamingRowLimit.toNat),
    ("streaming", .bool d.streaming),
    ("zoom_level", .ofInt d.zoom.toInt),
    ("user_override_sql", .ofText? d.userOverride)]

/-- The text of a document: one value, indented. -/
def toText (d : Document) : String := d.toJson.indented

end Document

end VisualQuery
