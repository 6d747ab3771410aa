import Interleave.Application
import Interleave.CommandLine.Arguments

/-!
# The program

Looks up the files that the command line mentions, runs the application on them, and prints its
answer.
-/

namespace Interleave

/-- The operating system's number for reading a folder as a file. -/
def isFolderCode : UInt32 := 21

/-- What stands at a path now. -/
def lookUp (path : String) : IO (Option Entry) := do
  try
    return some (.file (← IO.FS.readBinFile path))
  catch
    | .noFileOrDirectory .. => return none
    | .inappropriateType _ code _ =>
      return if code = isFolderCode then some .folder else none
    | e => return some (.unreadable (toString e))

/-- No endpoint can be reached from here, so everything but a dry run fails when it connects. -/
def noDialer : Dialer := fun _ =>
  .error "no connection to a PostgreSQL endpoint is available"

end Interleave

open Interleave in
def main (args : List String) : IO UInt32 := do
  let paths := settingsFile :: CommandLine.mentionedPaths args
  let entries ← paths.filterMapM fun path => do
    return (← lookUp path).map fun entry => (path, entry)
  let files : Files := fun path => entries.lookup path
  match Application.run files (← IO.getEnv "DATABASE_URL") noDialer args with
  | .ok output =>
    IO.println output
    return 0
  | .error (.usage .displayVersion) =>
    IO.println Application.version
    return 0
  | .error failure =>
    match failure with
    | .usage e => IO.eprintln ("error: " ++ e.label)
    | _ => IO.eprint failure.report
    return failure.exitCode.toUInt32
