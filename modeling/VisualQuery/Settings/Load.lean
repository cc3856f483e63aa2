import VisualQuery.Settings.Read

/-!
# Finding settings

The settings are in a file: the one that a variable of the environment names, or else the local one,
which need not be there.
-/

namespace VisualQuery.Settings

variable {m : Type → Type} [Monad m]

/-- The settings in the file at a path, which has to be there. -/
def ofFile (host : Host m) (path : String) : m (Except SettingsError Settings) := do
  match ← host.contents path with
  | .ok text => return ofText text
  | .error cause =>
    return .error (if cause.isThere then .unreadable cause else .fileNotFound path)

/-- The settings in the local file, or the defaults if there is none. -/
def ofLocalFile (host : Host m) : m (Except SettingsError Settings) := do
  match ← host.contents localPath with
  | .ok text => return ofText text
  | .error cause => return if cause.isThere then .error (.unreadable cause) else .ok default

/-- The settings in the file that is in force. -/
def load (host : Host m) : m (Except SettingsError Settings) := do
  match ← host.valueOf pathVariable with
  | some path => ofFile host path
  | none => ofLocalFile host

end VisualQuery.Settings
