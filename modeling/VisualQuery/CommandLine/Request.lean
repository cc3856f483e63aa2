import VisualQuery.CommandLine.Options

/-!
# Requests

A command line is made of options, a command, and the options and files of the command. The options
that hold for every command may stand on either side of it; where one stands on both sides, the
side of the command counts.
-/

namespace VisualQuery.CommandLine

/-- The names of the commands. -/
inductive Verb where
  /-- Writes the statement of a saved query. -/
  | render
  /-- Tells whether a saved query has cross joins. -/
  | check
  /-- Writes an empty query. -/
  | new
deriving DecidableEq, Repr

namespace Verb

/-- All commands. -/
def all : List Verb := [.render, .check, .new]

/-- The word for a command. -/
def word : Verb → String
  | .render => "render"
  | .check => "check"
  | .new => "new"

/-- The command with the given word. -/
def ofWord? (word : String) : Option Verb := all.find? (·.word = word)

end Verb

/-- What the program is asked to do. -/
inductive Command where
  /-- To write the statement of the query in a file, for a driver and with a quote; the statement
  that follows from the structure of the query, if that is asked for. -/
  | render (file : String) (driver quote : Option String) (structural : Bool)
  /-- To tell whether the query in a file has cross joins. -/
  | check (file : String)
  /-- To write an empty query under a name. -/
  | new (name : String)
deriving DecidableEq, Repr

/-- A command and the options that hold for every command. -/
structure Request where
  /-- Whether more is logged. -/
  verbose : Bool
  /-- The file of the settings. -/
  config : Option String
  /-- The command. -/
  command : Command
deriving DecidableEq, Repr

/-- What a command line asks for. -/
inductive Wish where
  /-- To do something. -/
  | act (request : Request)
  /-- To explain the program, or one of its commands. -/
  | explain (topic : Option Verb)
  /-- To tell the version. -/
  | tellVersion
deriving DecidableEq, Repr

/-! ### Options -/

/-- The options that hold for every command. -/
def commonOptions : List OptionEntry :=
  [⟨"verbose", some 'v', .flag⟩, ⟨"config", some 'c', .path⟩, ⟨"help", some 'h', .help⟩]

/-- The options in front of a command. -/
def outerOptions : List OptionEntry := commonOptions ++ [⟨"version", some 'V', .version⟩]

/-- The options behind a command. -/
def Verb.options : Verb → List OptionEntry
  | .render =>
    commonOptions ++
      [⟨"driver", some 'd', .text⟩, ⟨"quote", some 'q', .text⟩, ⟨"structural", none, .flag⟩]
  | .check => commonOptions
  | .new => commonOptions ++ [⟨"name", some 'n', .text⟩]

/-- How many files a command has. -/
def Verb.room : Verb → Nat
  | .render => 1
  | .check => 1
  | .new => 0

/-! ### Reading a command line -/

/-- The word that asks for help. -/
def helpWord : String := "help"

/-- The only file of a scan. -/
def fileOf (s : Scan) : Except Misuse String :=
  match s.files with
  | file :: _ => .ok file
  | [] => .error .missingFile

/-- The command that a scan behind its name has found. -/
def Verb.command (verb : Verb) (s : Scan) : Except Misuse Command :=
  match verb with
  | .render => do
    return .render (← fileOf s) (s.value? "driver") (s.value? "quote")
      (s.value? "structural").isSome
  | .check => return .check (← fileOf s)
  | .new => return .new ((s.value? "name").getD "")

/-- What the words behind `help` ask for: nothing, one command, or `help` itself. -/
def explanation : (words : List String) → Except Misuse Wish
  | [] => .ok (.explain none)
  | word :: rest =>
    match Verb.ofWord? word, rest with
    | none, rest =>
      if word ≠ helpWord then .error (.unknownCommand word)
      else
        match rest with
        | [] => .ok (.explain none)
        | next :: _ => .error (.unknownCommand next)
    | some verb, [] => .ok (.explain (some verb))
    | some _, next :: _ => .error (.unknownCommand next)

/-- What a scan comes to that stopped early. -/
def Stop.wish (topic : Option Verb) : Stop → Except Misuse Wish
  | .help => .ok (.explain topic)
  | .version => .ok .tellVersion
  | .misuse cause => .error cause

/-- Judges the value that a scan has left to judge. -/
def settled (s : Scan) : Except Misuse Scan :=
  match s.settle with
  | .ok s => .ok s
  | .error (.misuse cause) => .error cause
  | .error _ => .ok s

/-- The request of the options before and behind the name of a command. -/
def request (verb : Verb) (outer inner : Scan) : Except Misuse Wish := do
  -- faults behind the command come before faults in front of it
  let inner ← settled inner
  let command ← verb.command inner
  let outer ← settled outer
  return .act
    { verbose := (inner.value? "verbose").isSome || (outer.value? "verbose").isSome
      config := (inner.value? "config").or (outer.value? "config")
      command }

/-- What the arguments of a command line ask for. -/
def wish (arguments : List String) : Except Misuse Wish :=
  match scan outerOptions 0 (helpWord :: Verb.all.map Verb.word) arguments .empty with
  | .error stop => stop.wish none
  | .ok (outer, none) => do
    let _ ← settled outer
    throw .missingCommand
  | .ok (outer, some (word, rest)) =>
    match Verb.ofWord? word with
    | none => explanation rest
    | some verb =>
      match scan verb.options verb.room [] rest .empty with
      | .error stop => stop.wish (some verb)
      | .ok (inner, _) => request verb outer inner

end VisualQuery.CommandLine
