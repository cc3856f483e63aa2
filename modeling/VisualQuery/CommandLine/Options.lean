/-!
# Options

A command line is scanned from left to right against a table of options. An option has a long name
behind two hyphens and may have a short one behind a single hyphen; short names may be written
together. The value of an option follows its name behind an equals sign, behind the short name
itself, or as the next argument. Behind two hyphens alone every argument stands for itself.

A value that is an argument of its own is judged when the next option or file comes, or at the end.
-/

namespace VisualQuery.CommandLine

/-- What an option is for. -/
inductive OptionKind where
  /-- It is given or not. -/
  | flag
  /-- It has a text for its value. -/
  | text
  /-- It has a path for its value, which is not empty. -/
  | path
  /-- It asks for help. -/
  | help
  /-- It asks for the version. -/
  | version
deriving DecidableEq, Repr

/-- Whether an option has a value. -/
def OptionKind.takesValue : OptionKind → Bool
  | .text => true
  | .path => true
  | _ => false

/-- An option. -/
structure OptionEntry where
  /-- The long name. -/
  long : String
  /-- The short name. -/
  short : Option Char
  /-- What it is for. -/
  kind : OptionKind
deriving DecidableEq, Repr

/-- Why a command line cannot be understood. -/
inductive Misuse where
  /-- No option has the name. -/
  | unknownOption (written : String)
  /-- The option has no value. -/
  | unexpectedValue (long : String)
  /-- The value of the option is missing. -/
  | missingValue (long : String)
  /-- The option is given twice. -/
  | repeated (long : String)
  /-- A path is empty. -/
  | emptyPath
  /-- There is no use for the argument. -/
  | unexpectedArgument (argument : String)
  /-- No command has the name. -/
  | unknownCommand (word : String)
  /-- There is no command. -/
  | missingCommand
  /-- There is no file. -/
  | missingFile
deriving DecidableEq, Repr

/-- The message for a command line that cannot be understood. -/
def Misuse.message : Misuse → String
  | .unknownOption written => "unexpected argument '" ++ written ++ "' found"
  | .unexpectedValue long => "unexpected value for '--" ++ long ++ "' found; no more were expected"
  | .missingValue long => "a value is required for '--" ++ long ++ "' but none was supplied"
  | .repeated long => "the argument '--" ++ long ++ "' cannot be used multiple times"
  | .emptyPath => "a path is required but an empty text was supplied"
  | .unexpectedArgument argument => "unexpected argument '" ++ argument ++ "' found"
  | .unknownCommand word => "unrecognized subcommand '" ++ word ++ "'"
  | .missingCommand => "a subcommand is required but one was not provided"
  | .missingFile => "the following required arguments were not provided: <FILE>"

/-- Why the scan of a command line ends before the line does. -/
inductive Stop where
  /-- The line asks for help. -/
  | help
  /-- The line asks for the version. -/
  | version
  /-- The line cannot be understood. -/
  | misuse (cause : Misuse)
deriving DecidableEq, Repr

/-- What a scan has found so far. -/
structure Scan where
  /-- The options with their values, by their long names; the value of a flag is empty. -/
  given : List (String × String)
  /-- The option whose value is still to be judged, and the value once it has come. -/
  pending : Option (OptionEntry × Option String)
  /-- The files. -/
  files : List String
  /-- Whether every further argument stands for itself. -/
  literal : Bool

namespace Scan

/-- Nothing found. -/
def empty : Scan := ⟨[], none, [], false⟩

/-- The value of an option. -/
def value? (s : Scan) (long : String) : Option String := List.lookup long s.given

/-- Whether an option waits for its value. -/
def awaits (s : Scan) : Bool :=
  match s.pending with
  | some (_, none) => true
  | _ => false

/-- Accepts an option and its value. -/
def accept (s : Scan) (o : OptionEntry) (value : String) : Except Stop Scan :=
  if (s.value? o.long).isSome then .error (.misuse (.repeated o.long))
  else if o.kind = .path ∧ value.isEmpty then .error (.misuse .emptyPath)
  else .ok { s with given := s.given ++ [(o.long, value)] }

/-- Judges the value that is still to be judged. -/
def settle (s : Scan) : Except Stop Scan :=
  match s.pending with
  | none => .ok s
  | some (o, none) => .error (.misuse (.missingValue o.long))
  | some (o, some value) => { s with pending := none }.accept o value

/-- Takes an option that stands without a value so far. -/
def takeName (s : Scan) (o : OptionEntry) : Except Stop Scan := do
  let s ← s.settle
  match o.kind with
  | .flag => s.accept o ""
  | .help => throw .help
  | .version => throw .version
  | .text => return { s with pending := some (o, none) }
  | .path => return { s with pending := some (o, none) }

/-- Takes an option together with its value. -/
def takeValue (s : Scan) (o : OptionEntry) (value : String) : Except Stop Scan := do
  if o.kind.takesValue then (← s.settle).accept o value
  else throw (.misuse (.unexpectedValue o.long))

/-- Takes an argument that stands for itself: the value of the option that waits for one, or one
of at most `room` files. -/
def takePlain (s : Scan) (room : Nat) (argument : String) : Except Stop Scan := do
  match s.pending, s.literal with
  -- the value is kept, and judged by whatever comes next
  | some (o, none), false => return { s with pending := some (o, some argument) }
  | _, _ =>
    let s ← s.settle
    if room ≤ s.files.length then throw (.misuse (.unexpectedArgument argument))
    if argument.isEmpty then throw (.misuse .emptyPath)
    return { s with files := s.files ++ [argument] }

end Scan

/-! ### Arguments -/

/-- Takes an option by its long name, behind the hyphens. -/
def takeLong (options : List OptionEntry) (body : List Char) (s : Scan) : Except Stop Scan := do
  let name := String.ofList (body.takeWhile (· ≠ '='))
  match options.find? (·.long = name), body.dropWhile (· ≠ '=') with
  | none, _ => throw (.misuse (.unknownOption ("--" ++ name)))
  -- no equals sign: the value, if there is one, is the next argument
  | some o, [] => s.takeName o
  | some o, _ :: value => s.takeValue o (String.ofList value)

/-- Takes options by their short names, behind the hyphen. What follows the name of an option with
a value is the value, an equals sign in front of it left out. -/
def takeShort (options : List OptionEntry) : (body : List Char) → Scan → Except Stop Scan
  | [], s => return s
  | c :: body, s => do
    match options.find? (·.short = some c) with
    | none => throw (.misuse (.unknownOption (String.ofList ['-', c])))
    | some o =>
      if !o.kind.takesValue then takeShort options body (← s.takeName o)
      else
        match body with
        | [] => s.takeName o
        | '=' :: value => s.takeValue o (String.ofList value)
        | value => s.takeValue o (String.ofList value)

/-- Takes one argument. -/
def takeArgument (options : List OptionEntry) (room : Nat) (argument : String) (s : Scan) :
    Except Stop Scan :=
  if s.literal then s.takePlain room argument
  else
    match argument.toList with
    -- the marker itself is neither a file nor a value
    | ['-', '-'] => .ok { s with literal := true }
    | '-' :: '-' :: body => takeLong options body s
    -- a single hyphen names no option
    | ['-'] => s.takePlain room argument
    | '-' :: body => takeShort options body s
    | _ => s.takePlain room argument

/-- Takes arguments up to one of the given words, where no value is awaited. Returns that word and
what follows it, if one comes. -/
def scan (options : List OptionEntry) (room : Nat) (words : List String) :
    (arguments : List String) → Scan → Except Stop (Scan × Option (String × List String))
  | [], s => return (s, none)
  | argument :: rest, s => do
    if argument ∈ words ∧ !s.literal ∧ !s.awaits then return (s, some (argument, rest))
    else scan options room words rest (← takeArgument options room argument s)

end VisualQuery.CommandLine
