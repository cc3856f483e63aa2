import VisualQuery.Ident
import VisualQuery.Text.Blank
import VisualQuery.Text.CaseMap

/-!
# Items

An item is an expression that can be selected: a column of a table, a constant text, or the count
of all rows. It carries what the user said about it: whether it is selected, under which alias, how
it is filtered, aggregated and sorted. An item knows the container that holds it, but does not own
it.
-/

namespace VisualQuery

/-- What an item stands for. -/
inductive ItemKind where
  /-- A column of a table. -/
  | column
  /-- A constant text, or a placeholder that each dialect spells in its own way. -/
  | constant
  /-- The count of all rows. -/
  | countStar
deriving DecidableEq, Repr, Inhabited

/-- How an item takes part in grouping: as a grouping key, or inside an aggregate function. -/
inductive GroupFunction where
  /-- A grouping key. -/
  | groupBy
  /-- The sum of the values. -/
  | sum
  /-- The number of values. -/
  | count
  /-- The mean of the values. -/
  | avg
  /-- The least value. -/
  | min
  /-- The greatest value. -/
  | max
deriving DecidableEq, Repr, Inhabited

namespace GroupFunction

/-- The aggregate functions. -/
def aggregates : List GroupFunction := [.sum, .count, .avg, .min, .max]

/-- Whether the item is aggregated. -/
def isAggregate : GroupFunction → Bool
  | .groupBy => false
  | _ => true

/-- The words for the function in a statement. -/
def word : GroupFunction → String
  | .groupBy => "GROUP BY"
  | .sum => "SUM"
  | .count => "COUNT"
  | .avg => "AVG"
  | .min => "MIN"
  | .max => "MAX"

end GroupFunction

/-- The direction an item is sorted in. -/
inductive SortOrder where
  /-- Least value first. -/
  | ascending
  /-- Greatest value first. -/
  | descending
  /-- Not sorted. -/
  | unordered
deriving DecidableEq, Repr, Inhabited

namespace SortOrder

/-- The word for the direction in a statement. -/
def keyword? : SortOrder → Option String
  | .ascending => some "ASC"
  | .descending => some "DESC"
  | .unordered => none

/-- Whether the item is sorted at all. -/
def isOrdered : SortOrder → Bool
  | .unordered => false
  | _ => true

/-- Why a text does not name a sort direction. -/
inductive ParseError where
  /-- The text is blank. -/
  | empty
  /-- The word, trimmed and in lower case, is none of the known ones. -/
  | unknown (word : String)
deriving DecidableEq, Repr

/-- Reads a sort direction: its short or its long word, in any letter case and between blanks. -/
def ofText (s : String) : Except ParseError SortOrder :=
  let word := Text.toLower (Text.trim s)
  if word = "asc" ∨ word = "ascending" then .ok .ascending
  else if word = "desc" ∨ word = "descending" then .ok .descending
  else if word = "none" ∨ word = "unordered" then .ok .unordered
  else if word = "" then .error .empty
  else .error (.unknown word)

end SortOrder

/-- An expression that can be selected. -/
structure Item where
  /-- The identity. -/
  id : ItemId
  /-- The name of the column, or the text of the constant. -/
  name : String
  /-- What the item stands for. -/
  kind : ItemKind
  /-- The alias as it was given; see `Item.alias?`. -/
  aliasText : Option String
  /-- The width of the column on the user's screen. -/
  columnWidth : Option UInt32
  /-- Whether the item is part of the selection. -/
  selected : Bool
  /-- The filter as it was given; see `Item.filter?`. -/
  whereText : Option String
  /-- How the item takes part in grouping. -/
  groupFunction : GroupFunction
  /-- The filter on groups as it was given; see `Item.having?`. -/
  havingText : Option String
  /-- The direction the item is sorted in. -/
  sortOrder : SortOrder
  /-- The container that holds the item. -/
  parent : Option ContainerId
deriving DecidableEq, Repr, Inhabited

namespace Item

/-- An item about which nothing has been said yet. -/
def plain (id : ItemId) (name : String) (kind : ItemKind) : Item :=
  { id, name, kind
    aliasText := none, columnWidth := none, selected := false, whereText := none
    groupFunction := .groupBy, havingText := none, sortOrder := .unordered, parent := none }

/-- A column. -/
def column (id : ItemId) (name : String) : Item := plain id name .column

/-- A constant. -/
def constant (id : ItemId) (text : String) : Item := plain id text .constant

/-- The count of all rows. -/
def countStar (id : ItemId) : Item := plain id "count(*)" .countStar

/-- The alias; an empty one is none. -/
def alias? (x : Item) : Option String := Text.nonEmpty x.aliasText

/-- The filter behind the item's expression; a blank one is none. -/
def filter? (x : Item) : Option String := Text.nonBlank x.whereText

/-- The filter on groups behind the item's expression; a blank one is none. -/
def having? (x : Item) : Option String := Text.nonBlank x.havingText

/-- Whether a constant's text starts with the name of an aggregate function, in any letter case. -/
def isPreAggregated (x : Item) : Bool :=
  x.kind != .column &&
    let text := (Text.toUpper (Text.trimStart x.name)).toList
    GroupFunction.aggregates.any fun f => f.word.toList.isPrefixOf text

/-- A copy of the item under another identity, held by no container. -/
def copyAs (x : Item) (id : ItemId) : Item := { x with id, parent := none }

end Item

end VisualQuery
