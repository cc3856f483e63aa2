import VisualQuery.Host

/-!
# File trees

A file system that is given as a value: files and directories by the parts of their paths. A path is
followed part by part; every part but the last one has to be a directory, and two dots lead back to
the directory above.
-/

namespace VisualQuery

/-- The parts of a path. -/
abbrev Place := List String

/-- A file system. -/
structure FileTree where
  /-- The files and their texts. -/
  files : List (Place × String)
  /-- The directories. -/
  directories : List Place
  /-- The directory in which a path starts that does not start at the root. -/
  here : Place

namespace FileTree

/-- The parts of a path between its slashes. -/
def parts (path : String) : List String :=
  (path.toList.splitOnP (· == '/')).map String.ofList

/-- The text of the file at a place. -/
def file? (t : FileTree) (p : Place) : Option String := List.lookup p t.files

/-- How many bytes the name of a file has at most. -/
def maxName : Nat := 255

/-- How many bytes a path has at most. -/
def maxPath : Nat := 4095

/-- Where further parts of a path lead to from a place. -/
def follow (t : FileTree) (p : Place) : (parts : List String) → Except FileFault Place
  | [] => .ok p
  | part :: rest =>
    if (t.file? p).isSome then .error .notDirectory
    else if p ∉ t.directories then .error .missing
    else if maxName < part.utf8ByteSize then .error .nameTooLong
    else if part = "" ∨ part = "." then t.follow p rest
    else if part = ".." then t.follow p.dropLast rest
    else t.follow (p ++ [part]) rest

/-- The text of the file that a path leads to. -/
def contents (t : FileTree) (path : String) : Except FileFault String := do
  if path.isEmpty then throw .missing
  if maxPath < path.utf8ByteSize then throw .nameTooLong
  let p ← t.follow (if path.startsWith "/" then [] else t.here) (parts path)
  match t.file? p with
  | some text => return text
  | none => if p ∈ t.directories then throw .directory else throw .missing

/-- A tree with further files under the directory in which paths start. -/
def withFiles (t : FileTree) (files : List (String × String)) : FileTree :=
  let placed := files.map fun f =>
    (t.here ++ (parts f.1).filter fun part => part ≠ "" && part ≠ ".", f.2)
  { t with
    files := placed ++ t.files
    directories := t.directories ++ placed.flatMap fun f => (List.range f.1.length).map f.1.take }

/-- The host with a file system and an environment. -/
def host (t : FileTree) (env : Environment) : Host Id := { valueOf := env, contents := t.contents }

end FileTree

end VisualQuery
