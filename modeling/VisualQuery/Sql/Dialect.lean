import VisualQuery.Item
import VisualQuery.Text.CaseMap
import VisualQuery.Text.Substring

/-!
# Dialects

The dialects differ in one thing only: how they spell the built-in constants for the current time,
the current date and the user. The dialect of a data source follows from the name of its driver. An
identifier is written between quotes, if the data source has any, and a quote inside it is written
twice.
-/

namespace VisualQuery

/-- A dialect of SQL. -/
inductive Dialect where
  /-- The dialect of a source that is not known. -/
  | generic
  /-- SQL Server. -/
  | sqlServer
  /-- PostgreSQL. -/
  | postgres
  /-- MySQL. -/
  | mySql
  /-- Oracle. -/
  | oracle
deriving DecidableEq, Repr, Inhabited

namespace Dialect

/-- The name of a dialect. -/
def name : Dialect → String
  | .generic => "generic"
  | .sqlServer => "sqlserver"
  | .postgres => "postgres"
  | .mySql => "mysql"
  | .oracle => "oracle"

/-- All dialects. -/
def all : List Dialect := [.generic, .sqlServer, .postgres, .mySql, .oracle]

/-! ### Drivers -/

/-- The words by one of which the name of a driver tells the dialect. -/
def markers : Dialect → List String
  | .generic => []
  | .sqlServer => ["sqlserver", "jtds"]
  | .postgres => ["postgres"]
  | .mySql => ["mysql"]
  | .oracle => ["oracle"]

/-- Whether a driver's name holds one of the words, in any letter case. -/
def matchesDriver (d : Dialect) (driver : String) : Bool :=
  d.markers.any (Text.contains (Text.toLower driver))

/-- The dialects that are told by a driver's name, in the order in which they are tried. -/
def told : List Dialect := [.sqlServer, .postgres, .mySql, .oracle]

/-- The dialect of a source with the given driver. -/
def ofDriver : Option String → Dialect
  | none => .generic
  | some driver => (told.find? (·.matchesDriver driver)).getD .generic

/-! ### Constants -/

/-- The built-in constants and how the dialect spells them. -/
def spellings : Dialect → List (String × String)
  | .generic => []
  | .sqlServer =>
    [("current_time", "GETDATE()"), ("current_date", "CAST(GETDATE() AS DATE)"),
      ("user", "SUSER_SNAME()")]
  | .postgres =>
    [("current_time", "LOCALTIME"), ("current_date", "CURRENT_DATE"), ("user", "CURRENT_USER")]
  | .mySql =>
    [("current_time", "CURTIME()"), ("current_date", "CURDATE()"), ("user", "CURRENT_USER()")]
  | .oracle =>
    [("current_time", "SYSTIMESTAMP"), ("current_date", "SYSDATE"), ("user", "USER")]

/-- The dialect's spelling of a constant, whose name may stand between blanks and in any letter
case. -/
def spelling? (d : Dialect) (constant : String) : Option String :=
  let name := Text.trim constant
  (d.spellings.find? fun entry => Text.equalAsciiCaseless entry.1 name).map (·.2)

end Dialect

/-! ### Quoted identifiers -/

/-- An identifier between quotes, with every quote inside it written twice. A blank quote quotes
nothing. -/
def quoteIdentifier (quote name : String) : String :=
  if Text.isBlankText quote then name
  else
    let q := quote.toList
    String.ofList (q ++ Text.replaceAll q (q ++ q) name.toList ++ q)

/-- The text of an item by itself: a column's quoted name, a constant in the dialect's spelling, or
the count of all rows. -/
def Dialect.itemText (d : Dialect) (quote : String) (x : Item) : String :=
  match x.kind with
  | .column => quoteIdentifier quote x.name
  | .constant => (d.spelling? x.name).getD x.name
  | .countStar => "COUNT(*)"

end VisualQuery
