import VisualQuery.CommandLine.Request

/-!
# Help texts

What the program says about itself and about its commands.
-/

namespace VisualQuery.CommandLine

/-- The name of the program. -/
def programName : String := "quarry"

/-- The version of the program. -/
def programVersion : String := "0.1.0"

/-- The text that tells the version. -/
def versionText : String := programName ++ " " ++ programVersion ++ "\n"

/-- What a command does. -/
def Verb.purpose : Verb → String
  | .render => "Render a saved query document as SQL"
  | .check => "Report whether a saved query contains cross joins"
  | .new => "Print an empty query document"

/-- How a command is called, behind its name. -/
def Verb.shape : Verb → String
  | .render => "[OPTIONS] <FILE>"
  | .check => "[OPTIONS] <FILE>"
  | .new => "[OPTIONS]"

/-- How an option is written, and what it does. -/
def OptionEntry.explained (o : OptionEntry) : String × String :=
  let names :=
    match o.short with
    | some c => "-" ++ String.ofList [c] ++ ", --" ++ o.long
    | none => "    --" ++ o.long
  if o.long = "verbose" then (names, "Enable debug logging")
  else if o.long = "config" then
    (names ++ " <CONFIG>", "Path to a quarry.toml (defaults to $QUARRY_CONFIG, then ./quarry.toml)")
  else if o.long = "driver" then
    (names ++ " <DRIVER>", "Driver identifier used to pick the dialect")
  else if o.long = "quote" then
    (names ++ " <QUOTE>", "Identifier quote string (empty for bare identifiers)")
  else if o.long = "structural" then (names, "Ignore any user-supplied SQL override")
  else if o.long = "name" then (names ++ " <NAME>", "Name of the new query")
  else if o.long = "version" then (names, "Print version")
  else (names, "Print help")

/-- Lines of two columns. -/
def columns (rows : List (String × String)) : String :=
  let width := rows.foldl (fun w row => max w row.1.length) 0
  String.join <| rows.map fun row =>
    "  " ++ row.1 ++ String.ofList (List.replicate (width + 2 - row.1.length) ' ') ++ row.2 ++ "\n"

/-- The help text of the program, or of one of its commands. -/
def helpText : (topic : Option Verb) → String
  | none =>
    "Quarry - Turn visual query models into SQL\n\nUsage: " ++ programName ++
      " [OPTIONS] <COMMAND>\n\nCommands:\n" ++
      columns (Verb.all.map (fun v => (v.word, v.purpose)) ++
        [(helpWord, "Print this message or the help of the given subcommand(s)")]) ++
      "\nOptions:\n" ++ columns (outerOptions.map OptionEntry.explained)
  | some verb =>
    verb.purpose ++ "\n\nUsage: " ++ programName ++ " " ++ verb.word ++ " " ++ verb.shape ++
      "\n\n" ++
      (if verb.room = 0 then ""
        else "Arguments:\n" ++ columns [("<FILE>", "Path to the query document (JSON)")] ++ "\n") ++
      "Options:\n" ++ columns (verb.options.map OptionEntry.explained)

/-- What is said about a command line that cannot be understood. -/
def misuseText (cause : Misuse) : String :=
  "error: " ++ cause.message ++ "\n\nUsage: " ++ programName ++
    " [OPTIONS] <COMMAND>\n\nFor more information, try '--help'.\n"

end VisualQuery.CommandLine
