import Interleave.CommandLine.Arguments
import Interleave.Connection
import Interleave.DesignError
import Interleave.Settings.Error

/-!
# Failures of the program

* `Failure`: everything that can keep a command from its result.
* `Failure.message`, `Failure.report`: in a sentence, and as the last line that the program writes.
-/

namespace Interleave

inductive Failure where
  | usage (e : UsageError)
  | schema (e : DesignError)
  | settings (e : SettingsError)
  | connection (e : ConnectionError)
  /-- `cause` is the operating system's text. -/
  | unreadableSchema (path cause : String)
  | malformedSchema (path : String)
deriving DecidableEq

namespace Failure

def message : Failure → String
  | .usage e => e.label
  | .schema e => e.message
  | .settings e => e.message
  | .connection e => e.message
  | .unreadableSchema path cause => "Failed to read schema file '" ++ path ++ "': " ++ cause
  | .malformedSchema path => "Invalid schema JSON in '" ++ path ++ "': " ++ SettingsError.malformed

/-- Errors with named facts are reported by their facts, the others by their message in quotes. -/
def report (f : Failure) : String :=
  let text := match f with
    | .schema e => e.diagnostic.text
    | .settings e => e.diagnostic.text
    | .connection e => e.diagnostic.text
    | .usage _ | .unreadableSchema .. | .malformedSchema _ => Text.quoted f.message
  "Error: " ++ text ++ "\n"

/-- Help and version are answers and no failures. -/
def exitCode : Failure → UInt8
  | .usage .displayHelp | .usage .displayVersion => 0
  | .usage _ => 2
  | _ => 1

end Failure

end Interleave
