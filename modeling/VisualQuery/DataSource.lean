import VisualQuery.Text.Blank

/-!
# Data sources

A query may be attached to a data source. Two things are asked of it: the name of its driver, from
which the dialect follows, and the quote for identifiers, which a connection has to be opened for.
If that fails, identifiers are not quoted.
-/

namespace VisualQuery

/-- Why the quote for identifiers cannot be had. -/
inductive SourceError where
  /-- No connection can be opened. -/
  | connect
  /-- The connection does not tell. -/
  | metadata
  /-- The source has no connection at all. -/
  | offline
deriving DecidableEq, Repr

/-- A data source, as far as a query asks it. -/
structure DataSource where
  /-- The name of the driver. -/
  driver : Option String
  /-- The quote for identifiers, as a connection tells it. -/
  reportedQuote : Except SourceError String

namespace DataSource

/-- A source with a fixed driver and a fixed quote; without a quote it is offline. -/
def fixed (driver quote : Option String) : DataSource :=
  { driver
    reportedQuote :=
      match quote with
      | some q => .ok q
      | none => .error .offline }

/-- The source under another driver. -/
def withDriver (s : DataSource) (driver : String) : DataSource := { s with driver := some driver }

/-- The source with another quote. -/
def withQuote (s : DataSource) (quote : String) : DataSource :=
  { s with reportedQuote := .ok quote }

/-- The quote for identifiers, without blanks around it; none if it cannot be had. -/
def identifierQuote (s : DataSource) : String :=
  match s.reportedQuote with
  | .ok quote => Text.trim quote
  | .error _ => ""

end DataSource

end VisualQuery
