import VisualQuery.DataSource
import VisualQuery.Host
import VisualQuery.Settings.Expansion
import VisualQuery.Sql.Dialect

/-!
# Settings

The settings say how much is logged, and how statements are written where no data source is
attached: for which driver, and with which quote for identifiers. Both may refer to variables of
the environment, which are looked up when a source is made of the settings.
-/

namespace VisualQuery

/-- Why settings cannot be used. -/
inductive SettingsError where
  /-- There is no file at the path. -/
  | fileNotFound (path : String)
  /-- The file cannot be read. -/
  | unreadable (cause : FileFault)
  /-- The file does not hold settings. -/
  | malformed
  /-- A variable has no value. -/
  | missingVariable (name : String)
deriving DecidableEq, Repr

/-- The message for settings that cannot be used. -/
def SettingsError.message : SettingsError → String
  | .fileNotFound path => "Config file not found: " ++ path
  | .unreadable cause => "Failed to read config file: " ++ cause.message
  | .malformed => "Failed to parse config file"
  | .missingVariable name => "Missing environment variable: " ++ name

/-- How statements are written where no data source is attached. -/
structure GenerationSettings where
  /-- The name of the driver. -/
  driver : Option String
  /-- The quote for identifiers. -/
  identifierQuote : String
deriving DecidableEq, Repr

namespace GenerationSettings

/-- No driver and no quote. -/
def default : GenerationSettings := ⟨none, ""⟩

/-- A text of the settings with the values of its variables. -/
def resolve (env : Environment) (text : String) : Except SettingsError String :=
  (env.expand text).mapError .missingVariable

/-- The name of the driver with the values of its variables. -/
def resolvedDriver (g : GenerationSettings) (env : Environment) :
    Except SettingsError (Option String) :=
  match g.driver with
  | none => .ok none
  | some driver => (resolve env driver).map some

/-- The dialect of the driver. -/
def dialect (g : GenerationSettings) (env : Environment) : Except SettingsError Dialect :=
  (g.resolvedDriver env).map Dialect.ofDriver

/-- A source with the driver and the quote. The variables of the quote are looked up first. -/
def source (g : GenerationSettings) (env : Environment) : Except SettingsError DataSource := do
  let quote ← resolve env g.identifierQuote
  let driver ← g.resolvedDriver env
  return .fixed driver (some quote)

/-- The names of all variables that the settings refer to. -/
def variableNames (g : GenerationSettings) : List String :=
  Environment.namesIn g.identifierQuote ++ (g.driver.elim [] Environment.namesIn)

end GenerationSettings

/-- The settings. -/
structure Settings where
  /-- How much is logged. -/
  logLevel : String
  /-- How statements are written. -/
  generation : GenerationSettings
deriving DecidableEq, Repr

namespace Settings

/-- Warnings are logged, and statements are written for no driver. -/
def default : Settings := ⟨"warn", .default⟩

/-- The variable that names the file of the settings. -/
def pathVariable : String := "QUARRY_CONFIG"

/-- The file of the settings where the variable has no value. -/
def localPath : String := "quarry.toml"

end Settings

end VisualQuery
