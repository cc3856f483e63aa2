import VisualQuery.Document.Written
import VisualQuery.Json.Record

/-!
# Reading documents

Documents and their parts are records (`Json.Reader.record`). The fields that identify a part and
say what it is are required; all others may be missing and then have the values of a part about
which nothing has been said. What a container stands for is told by a tag: an object with the member
`type`, or a list that starts with it.
-/

namespace VisualQuery

open Json (Reader RecordField)

namespace Json.Reader

/-- An identifier. -/
def uuid : Reader Uuid := parsed fun s => Uuid.ofText? s.toList

/-- An optional text. -/
def text? : Reader (Option String) := nullable text

end Json.Reader

/-- The fields of an item. -/
def Item.fields : List (RecordField Item) := [
  .flat "id" true .uuid fun u x => { x with id := ⟨u⟩ },
  .flat "name" true .text fun name x => { x with name },
  .nested "kind" true (.word ItemKind.names) fun kind x => { x with kind },
  .flat "alias" false .text? fun aliasText x => { x with aliasText },
  .flat "column_width" false (.nullable (.wholeIn 0 0x100000000)) fun w x =>
    { x with columnWidth := w.map fun n => UInt32.ofNat n.toNat },
  .flat "selected" false .bool fun selected x => { x with selected },
  .flat "where_fragment" false .text? fun whereText x => { x with whereText },
  .nested "group_function" false (.word GroupFunction.names) fun groupFunction x =>
    { x with groupFunction },
  .flat "having" false .text? fun havingText x => { x with havingText },
  .nested "sort_order" false (.word SortOrder.names) fun sortOrder x => { x with sortOrder }]

/-- Reads an item. -/
def Item.read : (depth : Nat) → Reader Item := .record fields (.column default "")

namespace ContainerKind

/-- The tags. -/
inductive Tag where
  /-- A table. -/
  | table
  /-- The constants of a query. -/
  | constants
deriving DecidableEq, Repr

/-- The tags and their names. -/
def Tag.names : List (String × Tag) := [("table", .table), ("constants", .constants)]

/-- The kind with a tag and the value of the schema; the constants have no use for it. -/
def ofTag (tag : Tag) (schema : Option Json) : Option ContainerKind :=
  match tag, schema with
  | .constants, _ => some .constants
  | .table, none => some (.table none)
  | .table, some .null => some (.table none)
  | .table, some (.text s) => some (.table (some s))
  | .table, some _ => none

/-- The kind with a tag and the other members of its object. Two schemas are too many. -/
def ofMembers (tag : Tag) (members : List (String × Json)) : Option ContainerKind :=
  match tag, members.filter (·.1 = "schema") with
  | .constants, _ => some .constants
  | .table, [] => ofTag tag none
  | .table, [(_, v)] => ofTag tag (some v)
  | .table, _ => none

/-- The kind with a tag and the elements behind it. -/
def ofElements (tag : Tag) (elements : List Json) : Option ContainerKind :=
  match tag, elements with
  | _, [] => ofTag tag none
  | .table, [v] => ofTag tag (some v)
  | _, _ => none

/-- Reads a tag. -/
def readTag : Reader Tag := Reader.parsed fun s => List.lookup s Tag.names

/-- Reads what follows the name of a member: the tag, which must not come twice, or a value that is
kept. -/
def readMember (depth : Nat) (name : String) (seen : Option Tag × List (String × Json)) :
    Reader (Option Tag × List (String × Json)) := do
  if name = "type" then
    -- a second tag is refused before its colon
    if seen.1.isSome then throw .mismatched
    Reader.colon
    return (some (← readTag), seen.2)
  else
    Reader.colon
    return (seen.1, (name, ← Reader.value depth) :: seen.2)

/-- The elements of a list behind its first one. -/
def readRest (depth : Nat) : Reader (List Json) := do
  Reader.elementsIn (Reader.value depth) ((← get).length + 1) false

/-- The kind, if there is one. -/
def orMismatch : Option ContainerKind → Reader ContainerKind
  | some kind => return kind
  | none => throw .mismatched

/-- Reads what a container stands for. The parts are read first and judged afterwards. -/
def read (depth : Nat) : Reader ContainerKind := do
  match ← Reader.peek, depth with
  | some '\x7b', depth + 1 =>
    Reader.advance
    match ← Reader.foldMembers (readMember depth) (none, []) with
    -- a missing tag is told before a missing brace
    | (none, _) => throw .mismatched
    | (some tag, members) =>
      Reader.endObject
      orMismatch (ofMembers tag members.reverse)
  | some '[', depth + 1 =>
    Reader.advance
    if ← Reader.nextElement true then
      let tag ← readTag
      let rest ← readRest depth
      Reader.endList
      orMismatch (ofElements tag rest)
    else throw .mismatched
  | some '\x7b', 0 => throw .malformed
  | some '[', 0 => throw .malformed
  | _, _ => Reader.mismatch

end ContainerKind

/-- The fields of a container. -/
def Container.fields : List (RecordField Container) := [
  .flat "id" true .uuid fun u c => { c with id := ⟨u⟩ },
  .flat "name" true .text fun name c => { c with name },
  .flat "alias" false .text? fun aliasText c => { c with aliasText },
  .nested "kind" true ContainerKind.read fun kind c => { c with kind },
  .nested "items" false (.list Item.read) fun items c => { c with items },
  .nested "position" false Reader.value fun v c => { c with position := .ofJson v }]

/-- Reads a container. -/
def Container.read : (depth : Nat) → Reader Container := .record fields (.table default "")

/-- The fields of an end of a join. -/
def JoinEnd.fields : List (RecordField JoinEnd) := [
  .flat "container" true .uuid fun u e => { e with container := ⟨u⟩ },
  .flat "item" true .uuid fun u e => { e with item := ⟨u⟩ },
  .flat "outer" false .bool fun outer e => { e with outer }]

/-- Reads an end of a join. -/
def JoinEnd.read : (depth : Nat) → Reader JoinEnd := .record fields default

/-- The fields of a join. -/
def Join.fields : List (RecordField Join) := [
  .flat "id" true .uuid fun u j => { j with id := ⟨u⟩ },
  .nested "left" true JoinEnd.read fun left j => { j with left },
  .nested "right" true JoinEnd.read fun right j => { j with right },
  .nested "comparator" false (.word Comparator.names) fun comparator j => { j with comparator },
  .flat "name" false .text? fun name j => { j with name }]

/-- Reads a join. -/
def Join.read : (depth : Nat) → Reader Join := .record fields default

namespace Document

/-- A list of identities of items. -/
def readIds : (depth : Nat) → Reader (List ItemId) :=
  .list fun _ => return ⟨← Reader.uuid⟩

/-- The fields of a document. -/
def fields : List (RecordField Document) := [
  .flat "id" false .uuid fun u d => { d with id := ⟨u⟩ },
  .flat "name" false .text fun name d => { d with name },
  .nested "constants" false Container.read fun constants d => { d with constants },
  .nested "tables" false (.list Container.read) fun tables d => { d with tables },
  .nested "joins" false (.list Join.read) fun joins d => { d with joins },
  .nested "selected_items" false readIds fun selectedItems d => { d with selectedItems },
  .nested "order_by_items" false readIds fun orderByItems d => { d with orderByItems },
  .flat "global_where" false .text? fun globalWhere d => { d with globalWhere },
  .flat "grouping_enabled" false .bool fun grouping d => { d with grouping },
  .flat "row_limit" false (.wholeIn 0 0x10000000000000000) fun n d =>
    { d with rowLimit := UInt64.ofNat n.toNat },
  .flat "streaming_row_limit" false (.wholeIn 0 0x10000000000000000) fun n d =>
    { d with streamingRowLimit := UInt64.ofNat n.toNat },
  .flat "streaming" false .bool fun streaming d => { d with streaming },
  .flat "zoom_level" false (.wholeIn (-0x80000000) 0x80000000) fun n d =>
    { d with zoom := Int32.ofInt n },
  .flat "user_override_sql" false .text? fun userOverride d => { d with userOverride }]

/-- Reads a document; what is missing is taken from a blank one. -/
def read (blank : Document) : (depth : Nat) → Reader Document := .record fields blank

/-- Reads the text of a document. What is missing is as in a new query, under fresh identities. -/
def ofText (s : String) : Minting (Except Json.Fault Document) := do
  let blank := ofQuery (← Query.new "")
  return Json.readWhole (read blank Json.maxDepth) s

/-- The query of a text that holds a document. -/
def loadText (mode : IdentityMode) (s : String) : Minting (Except DocumentError Query) := do
  match ← ofText s with
  | .error fault => return .error (.unreadable fault)
  | .ok d => d.load mode

end Document

end VisualQuery
