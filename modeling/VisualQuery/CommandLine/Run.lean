import VisualQuery.CommandLine.Help
import VisualQuery.Document.Read
import VisualQuery.Settings.Load
import VisualQuery.Sql.Statement

/-!
# Running a command line

The settings are read first, whatever the command. A command prints its answer, or says on the
error channel why there is none. The exit code is 0 for an answer, 1 if there is none or if a query
has cross joins, and 2 for a command line that cannot be understood.
-/

namespace VisualQuery.CommandLine

/-- What the program leaves behind. -/
structure Report where
  /-- The exit code. -/
  code : Nat
  /-- What is printed. -/
  out : String
  /-- What is said on the error channel. -/
  err : String
deriving DecidableEq, Repr

namespace Report

/-- An answer. -/
def answer (line : String) : Report := ⟨0, line ++ "\n", ""⟩

/-- There is no answer. -/
def failure (why : String) : Report := ⟨1, "", why ++ "\n"⟩

end Report

/-- The query in the text of a file. -/
def queryOf (file text : String) : Minting (Except String Query) := do
  match ← Document.loadText .preserve text with
  | .ok q => return .ok q
  | .error e => return .error ("Error loading '" ++ file ++ "': " ++ e.message)

/-- Why a file has no query. -/
def unreadable (file : String) (cause : FileFault) : String :=
  "Error reading file '" ++ file ++ "': " ++ cause.message

/-- Why the settings cannot be used. -/
def unusable (cause : SettingsError) : String := "Configuration error: " ++ cause.message

/-! ### Commands -/

/-- The report on a query in a file. -/
def checked (file : String) (q : Query) : Report :=
  if q.containsCrossJoins then ⟨1, file ++ ": contains cross joins\n", ""⟩
  else .answer ("OK: " ++ file ++ " has no cross joins")

/-- The source that a command line and the settings describe together. -/
def sourceFor (settings : Settings) (env : Environment) (driver quote : Option String) :
    Except SettingsError DataSource := do
  let source ← settings.generation.source env
  let source := driver.elim source source.withDriver
  return quote.elim source source.withQuote

/-- The statement of a query in a file. -/
def rendered (file : String) (structural : Bool) (q : Query) : Report :=
  let sql := if structural then q.generateStructural q.style else q.generate q.style
  if sql.isEmpty then .failure ("Nothing selected in '" ++ file ++ "'") else .answer sql

variable {m : Type → Type} [Monad m]

/-- Does something with the query in a file. -/
def withQuery (host : Host m) (supply : IdSupply) (file : String) (use : Query → m Report) :
    m Report := do
  match ← host.contents file with
  | .error cause => return .failure (unreadable file cause)
  | .ok text =>
    match ((queryOf file text).run supply).1 with
    | .error why => return .failure why
    | .ok q => use q

/-- Runs a command under settings. -/
def perform (host : Host m) (supply : IdSupply) (settings : Settings) : Command → m Report
  | .new name => do
    return .answer (Document.ofQuery ((Query.new name).run supply).1).toText
  | .check file => withQuery host supply file fun q => return checked file q
  | .render file driver quote structural =>
    withQuery host supply file fun q => do
      let env ← host.environment settings.generation.variableNames
      match sourceFor settings env driver quote with
      | .error cause => return .failure (unusable cause)
      | .ok source => return rendered file structural { q with source := some source }

/-- Fulfils a request. -/
def fulfil (host : Host m) (supply : IdSupply) (r : Request) : m Report := do
  let settings ←
    match r.config with
    | some path => Settings.ofFile host path
    | none => Settings.load host
  match settings with
  | .error cause => return .failure (unusable cause)
  | .ok settings => perform host supply settings r.command

/-- Runs a command line. -/
def run (host : Host m) (supply : IdSupply) (arguments : List String) : m Report :=
  match wish arguments with
  | .error cause => return ⟨2, "", misuseText cause⟩
  | .ok .tellVersion => return ⟨0, versionText, ""⟩
  | .ok (.explain topic) => return ⟨0, helpText topic, ""⟩
  | .ok (.act request) => fulfil host supply request

end VisualQuery.CommandLine
