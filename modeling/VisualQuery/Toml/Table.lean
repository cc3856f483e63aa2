import VisualQuery.Toml.Value

/-!
# Growing tables

A document is a table that grows line by line. A header and a dotted key both name a path down the
tables; tables on the way that are not there yet come to be. What is in the way may forbid to go on:
a value that is no table, an inline table, or, for a dotted key, a table that has a header.
-/

namespace VisualQuery.Toml

/-- The members of a table. -/
abbrev Members := List (String × Toml)

namespace Members

/-- The members with another value for a key that is there. -/
def replace (key : String) (v : Toml) (ms : Members) : Members :=
  ms.map fun m => if m.1 = key then (key, v) else m

/-- Who names a path. -/
inductive Path where
  /-- A header. -/
  | ofHeader
  /-- A dotted key. -/
  | ofKey
deriving DecidableEq, Repr

/-- The origin of a table that comes to be on a path. -/
def Path.origin : Path → Origin
  | .ofHeader => .implied
  | .ofKey => .dotted

/-- Whether a path may go through a table. -/
def Path.passes : Path → Origin → Bool
  | .ofHeader, o => o != .inline
  | .ofKey, o => o != .inline && o != .header

/-- Changes the table at the end of a path, which starts at a table of the given origin. -/
def alter (kind : Path) (change : Origin → Members → Option Members) :
    (keys : List String) → Origin → Members → Option Members
  | [], origin, ms => change origin ms
  | key :: keys, _, ms =>
    match List.lookup key ms with
    | none => do
      let fresh ← alter kind change keys kind.origin []
      return ms ++ [(key, .table kind.origin fresh)]
    | some (.table origin inner) => do
      if !kind.passes origin then failure
      return replace key (.table origin (← alter kind change keys origin inner)) ms
    -- a path goes on in the table that was opened last
    | some (.tables (row :: rows)) => do
      return replace key (.tables ((← alter kind change keys .header row) :: rows)) ms
    | some _ => none

/-- Adds a value under a key that is not there yet. Behind a dotted key, its table must have come
to be by dotted keys alone. -/
def add (keys : List String) (key : String) (v : Toml) (origin : Origin) (ms : Members) :
    Option Members :=
  alter .ofKey (fun reached inner =>
    if keys.isEmpty || reached = .dotted then
      match List.lookup key inner with
      | none => some (inner ++ [(key, v)])
      | some _ => none
    else none) keys origin ms

/-- Opens the table of a header, at the root of a document. The table may have been named on the
way to another header. -/
def openTable (keys : List String) (key : String) (root : Members) : Option Members :=
  alter .ofHeader (fun _ ms =>
    match List.lookup key ms with
    | none => some (ms ++ [(key, .table .header [])])
    | some (.table .implied inner) => some (replace key (.table .header inner) ms)
    | some _ => none) keys .header root

/-- Opens another table of an array of tables, at the root of a document. -/
def openRow (keys : List String) (key : String) (root : Members) : Option Members :=
  alter .ofHeader (fun _ ms =>
    match List.lookup key ms with
    | none => some (ms ++ [(key, .tables [[]])])
    | some (.tables rows) => some (replace key (.tables ([] :: rows)) ms)
    | some _ => none) keys .header root

/-- Adds a value to the table that a header opened. -/
def addUnder (opened : List String) (keys : List String) (key : String) (v : Toml)
    (root : Members) : Option Members :=
  alter .ofHeader (fun origin ms => add keys key v origin ms) opened .header root

end Members

end VisualQuery.Toml
