import Interleave.Batch
import Interleave.Report.Basic

/-!
# Invocations

* `Command`: `generate` or `apply`, with what it is told.
* `Invocation`: what a command line asks for.
* `UsageError`: why a command line asks for nothing that can be done.
-/

namespace Interleave

inductive LogLevel where
  | error
  | warn
  | info
  | debug
  | trace
deriving DecidableEq

def LogLevel.label : LogLevel → String
  | .error => "ERROR"
  | .warn => "WARN"
  | .info => "INFO"
  | .debug => "DEBUG"
  | .trace => "TRACE"

inductive Command where
  | generate (schema : String) (action : Action) (existingTables existingIndexes : List String)
  | apply (schema : String) (action : Action) (dryRun : Bool)
deriving DecidableEq

structure Invocation where
  format : Format
  /-- The URL of a database. -/
  database : Option String
  logLevel : LogLevel
  command : Command
deriving DecidableEq

inductive UsageError where
  | displayHelp
  | displayVersion
  | noArguments
  | missingSubcommand
  | invalidSubcommand
  | unknownArgument
  | missingRequiredArgument
  | invalidValue
  | valueValidation
  | tooManyValues
  | argumentConflict
deriving DecidableEq

def UsageError.label : UsageError → String
  | .displayHelp => "DisplayHelp"
  | .displayVersion => "DisplayVersion"
  | .noArguments => "DisplayHelpOnMissingArgumentOrSubcommand"
  | .missingSubcommand => "MissingSubcommand"
  | .invalidSubcommand => "InvalidSubcommand"
  | .unknownArgument => "UnknownArgument"
  | .missingRequiredArgument => "MissingRequiredArgument"
  | .invalidValue => "InvalidValue"
  | .valueValidation => "ValueValidation"
  | .tooManyValues => "TooManyValues"
  | .argumentConflict => "ArgumentConflict"

end Interleave
