import VisualQuery.Settings.Basic
import VisualQuery.Toml.Reader

/-!
# Reading settings

Settings are the root table of a TOML document. What is missing has its default; what is not known
is passed over, but its numbers must be ones that can be represented. The settings for generation
may also be an array of the values in their order.
-/

namespace VisualQuery

/-- Sets a field to a text, if the value is one. -/
def Toml.setText {α : Type} (v : Toml) (set : String → α) : Option α :=
  match v with
  | .text s => some (set s)
  | _ => none

namespace GenerationSettings

/-- The settings with one more member of their table. -/
def withMember (g : GenerationSettings) (name : String) (v : Toml) : Option GenerationSettings :=
  if name = "driver" then v.setText fun s => { g with driver := some s }
  else if name = "identifier_quote" then v.setText fun s => { g with identifierQuote := s }
  else if v.fits then some g
  else none

/-- The settings in a value. A date or a time says nothing about them. -/
def ofToml? : Toml → Option GenerationSettings
  | .table _ members => members.foldlM (fun g m => g.withMember m.1 m.2) default
  | .list [] => some default
  | .list [driver] => default.withMember "driver" driver
  | .list (driver :: quote :: _) => do
    (← default.withMember "driver" driver).withMember "identifier_quote" quote
  | .moment _ => some default
  | _ => none

end GenerationSettings

namespace Settings

/-- The settings with one more member of the root table. -/
def withMember (s : Settings) (name : String) (v : Toml) : Option Settings :=
  if name = "log_level" then v.setText fun logLevel => { s with logLevel }
  else if name = "generation" then
    (GenerationSettings.ofToml? v).map fun generation => { s with generation }
  else if v.fits then some s
  else none

/-- The settings in the text of a file. -/
def ofText (text : String) : Except SettingsError Settings :=
  match Toml.ofText? text with
  | none => .error .malformed
  | some root =>
    match root.foldlM (fun s m => s.withMember m.1 m.2) default with
    | none => .error .malformed
    | some s => .ok s

end Settings

end VisualQuery
