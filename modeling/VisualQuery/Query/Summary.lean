import VisualQuery.Bus
import VisualQuery.Decimal.Natural
import VisualQuery.Query.Basic
import VisualQuery.Text.Escaped

/-!
# Summaries

A summary shows a query and its listeners on one line, for diagnostic output: identities, names and
counts, but not the tables and joins themselves.
-/

namespace VisualQuery.Query

/-- A record on one line: its name and its fields. -/
def summaryRecord (name : String) (fields : List (String × String)) : String :=
  name ++ " \x7b " ++ ", ".intercalate (fields.map fun (field, value) => field ++ ": " ++ value) ++
    " \x7d"

/-- A value behind the name of its kind. -/
def summaryCall (name value : String) : String := name ++ "(" ++ value ++ ")"

/-- An optional value. -/
def summaryOption : Option String → String
  | none => "None"
  | some value => summaryCall "Some" value

/-- A list of values. -/
def summaryList (values : List String) : String := "[" ++ ", ".intercalate values ++ "]"

/-- A flag. -/
def summaryFlag (b : Bool) : String := if b then "true" else "false"

/-- The summary of a query with the given listeners. -/
def summary (q : Query) (bus : Bus) : String :=
  let itemIds (ids : List ItemId) :=
    summaryList (ids.map fun x => summaryCall "ItemId" x.uuid.toText)
  summaryRecord "Query" [
    ("id", summaryCall "QueryId" q.id.uuid.toText),
    ("name", Text.quoted q.name),
    ("from_tables",
      summaryList (q.tableIds.map fun c => summaryCall "ContainerId" c.uuid.toText)),
    ("selected_items", itemIds q.selection),
    ("order_by_items", itemIds q.sortList),
    ("joins", Decimal.natText q.joins.ids.length),
    ("grouping_enabled", summaryFlag q.grouping),
    ("user_override_sql", summaryOption (q.userOverride.map Text.quoted)),
    ("data_source",
      summaryOption (q.source.map fun source =>
        summaryRecord "DataSource" [
          ("driver", summaryOption (source.driver.map Text.quoted))])),
    ("bus",
      summaryRecord "EventBus" [("listeners", Decimal.natText bus.subscriptions.length)]),
    ("compound_depth", Decimal.natText q.compoundDepth)]

end VisualQuery.Query
