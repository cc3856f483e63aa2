import VisualQuery.CommandLine.Run

/-!
# The program

The command line on the real system. Fresh identifiers start at a random number.
-/

namespace VisualQuery

/-- The fault behind an error of the system. -/
def FileFault.ofError : IO.Error → FileFault
  | .noFileOrDirectory _ _ _ => .missing
  | .inappropriateType _ code _ => if code = 21 then .directory else .notDirectory
  | .invalidArgument _ _ _ => .nameTooLong
  | .permissionDenied _ _ _ => .denied
  | _ => .notText

/-- The system the program runs on. -/
def Host.system : Host IO :=
  { valueOf := fun name => IO.getEnv name
    contents := fun path => do
      try
        return .ok (← IO.FS.readFile path)
      catch e =>
        return .error (.ofError e) }

/-- Identifiers that start at a random number. -/
def IdSupply.random : IO IdSupply := do
  let bytes ← IO.getRandomBytes 16
  return .after (bytes.foldl (fun n b => 256 * n + b.toNat) 0)

end VisualQuery

/-- Runs the arguments of the program as a command line. -/
def main (arguments : List String) : IO UInt32 := do
  let report ← VisualQuery.CommandLine.run VisualQuery.Host.system
    (← VisualQuery.IdSupply.random) arguments
  IO.print report.out
  IO.eprint report.err
  return UInt32.ofNat report.code
