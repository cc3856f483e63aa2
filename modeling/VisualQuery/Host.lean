import VisualQuery.Environment

/-!
# The host of a program

A program asks its host two things: the values of variables and the contents of files. The host
answers in a monad of its own, so that the same program runs on the real system and on one that is
given as a value.
-/

namespace VisualQuery

/-- Why a file cannot be read. -/
inductive FileFault where
  /-- There is no such file. -/
  | missing
  /-- A part of the path is a file and not a directory. -/
  | notDirectory
  /-- The name is too long. -/
  | nameTooLong
  /-- It is a directory. -/
  | directory
  /-- Reading is not allowed. -/
  | denied
  /-- It does not hold a text. -/
  | notText
deriving DecidableEq, Repr

namespace FileFault

/-- The message of the system; a fault that the system knows has a number. -/
def message : FileFault → String
  | .missing => "No such file or directory (os error 2)"
  | .notDirectory => "Not a directory (os error 20)"
  | .nameTooLong => "File name too long (os error 36)"
  | .directory => "Is a directory (os error 21)"
  | .denied => "Permission denied (os error 13)"
  | .notText => "stream did not contain valid UTF-8"

/-- Whether the path leads to something that cannot be read. -/
def isThere : FileFault → Bool
  | .directory => true
  | .denied => true
  | .notText => true
  | .missing => false
  | .notDirectory => false
  | .nameTooLong => false

end FileFault

/-- What a program asks the system it runs on. -/
structure Host (m : Type → Type) where
  /-- The value of a variable. -/
  valueOf : String → m (Option String)
  /-- The text of the file at a path. -/
  contents : String → m (Except FileFault String)

namespace Host

/-- The host's environment, as far as the given names are concerned. -/
def environment {m : Type → Type} [Monad m] (host : Host m) (names : List String) :
    m Environment := do
  let values ← names.mapM fun name => do return (name, ← host.valueOf name)
  return fun name => (List.lookup name values).getD none

end Host

end VisualQuery
