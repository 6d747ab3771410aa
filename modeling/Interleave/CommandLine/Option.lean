import Interleave.CommandLine.Invocation

/-!
# Options on a command line

* `Scope`: the part of a command line that an argument stands in.
* `Setting`, `Switch`, `Opt`: options with and without a value.
* `Scope.long?`, `Scope.short?`: the option that a name or a letter stands for.
* `format?`, `action?`, `logLevel?`: the values that are spelt out.
-/

namespace Interleave.CommandLine

/-- The part of a command line that an argument stands in. -/
inductive Scope where
  | program
  | generate
  | apply
deriving DecidableEq

/-- Options that take a value. -/
inductive Setting where
  | format
  | database
  | logLevel
  | schema
  | action
  | existingTable
  | existingIndex
deriving DecidableEq

/-- Options that take none. -/
inductive Switch where
  | help
  | version
  | dryRun
deriving DecidableEq

inductive Opt where
  | setting (s : Setting)
  | switch (s : Switch)
deriving DecidableEq

def Scope.long? : Scope → String → Option Opt
  | _, "format" => some (.setting .format)
  | _, "database" => some (.setting .database)
  | _, "log-level" => some (.setting .logLevel)
  | _, "help" => some (.switch .help)
  | .program, "version" => some (.switch .version)
  | .generate, "schema" | .apply, "schema" => some (.setting .schema)
  | .generate, "action" | .apply, "action" => some (.setting .action)
  | .generate, "existing-table" => some (.setting .existingTable)
  | .generate, "existing-index" => some (.setting .existingIndex)
  | .apply, "dry-run" => some (.switch .dryRun)
  | _, _ => none

def Scope.short? : Scope → Char → Option Opt
  | _, 'f' => some (.setting .format)
  | _, 'h' => some (.switch .help)
  | .program, 'V' => some (.switch .version)
  | .generate, 's' | .apply, 's' => some (.setting .schema)
  | .generate, 'a' | .apply, 'a' => some (.setting .action)
  | _, _ => none

def format? : String → Option Format
  | "table" => some .table
  | "json" => some .json
  | "toon" => some .toon
  | _ => none

def action? : String → Option Action
  | "create" => some .create
  | "replace" => some .replace
  | "drop" => some .drop
  | _ => none

/-- A number in decimal, perhaps after a plus. -/
def number? (text : List Char) : Option Nat :=
  let digits := if text.head? = some '+' then text.drop 1 else text
  if digits ≠ [] ∧ digits.all Char.isDigit then
    some (digits.foldl (fun n c => n * 10 + (c.toNat - '0'.toNat)) 0)
  else none

/-- A level by number, or by name in any case. -/
def logLevel? (text : String) : Option LogLevel :=
  match number? text.toList with
  | some 1 => some .error
  | some 2 => some .warn
  | some 3 => some .info
  | some 4 => some .debug
  | some 5 => some .trace
  | some _ => none
  | none => [LogLevel.error, .warn, .info, .debug, .trace].find? (·.label == text.toUpper)

end Interleave.CommandLine
