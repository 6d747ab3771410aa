import Interleave.CommandLine.Option
import Interleave.Files

/-!
# Reading arguments

A command line names a command, `generate` or `apply`, with options before and after it.

* `Given`: the options of one scope that are settled.
* `Reading`: the same while arguments are still being read.
* `Invocation.parse`: the meaning of a list of arguments.
* `mentionedPaths`: the arguments that can turn out to be the path of a schema. A program that looks
  files up beforehand looks up these.

Options that hold for the whole program may stand on both sides of the command, and then the later
one counts. An option that takes a value is settled when the next one begins or the arguments end,
so an unknown argument is reported before a bad value just ahead of it.
-/

namespace Interleave

namespace CommandLine

/-- The settled options of one scope. -/
structure Given where
  format : Option Format := none
  database : Option String := none
  logLevel : Option LogLevel := none
  schema : Option String := none
  action : Option Action := none
  existingTables : List String := []
  existingIndexes : List String := []
  dryRun : Bool := false
deriving DecidableEq

/-- An option that may be given once takes its value. -/
def once {α : Type} (current : Option α) (value : Except UsageError α) :
    Except UsageError (Option α) :=
  match current with
  | some _ => .error .argumentConflict
  | none => value.map some

/-- A value out of a fixed list. -/
def listed {α : Type} (value : Option α) : Except UsageError α :=
  match value with
  | some a => .ok a
  | none => .error .invalidValue

/-- A value that passed its test. -/
def validated {α : Type} (value : Option α) : Except UsageError α :=
  match value with
  | some a => .ok a
  | none => .error .valueValidation

namespace Given

/-- Take the value of an option. Lists of names are split at commas and add up. -/
def set (files : Files) (g : Given) (setting : Setting) (value : String) :
    Except UsageError Given := do
  match setting with
  | .format => return { g with format := ← once g.format (listed (format? value)) }
  | .database => return { g with database := ← once g.database (.ok value) }
  | .logLevel => return { g with logLevel := ← once g.logLevel (validated (logLevel? value)) }
  | .schema =>
    return { g with schema := ← once g.schema (validated ((files value).map fun _ => value)) }
  | .action => return { g with action := ← once g.action (listed (action? value)) }
  | .existingTable => return { g with existingTables := g.existingTables ++ value.splitOn "," }
  | .existingIndex => return { g with existingIndexes := g.existingIndexes ++ value.splitOn "," }

end Given

/-- The settled options of a scope, and the last one if it is not settled yet, with its value if
that has been read. -/
structure Reading where
  given : Given := {}
  pending : Option (Setting × Option String) := none
deriving DecidableEq

namespace Reading

def settle (files : Files) (r : Reading) : Except UsageError Given :=
  match r.pending with
  | none => .ok r.given
  | some (_, none) => .error .invalidValue
  | some (setting, some value) => r.given.set files setting value

/-- The option whose value is to come next. -/
def awaited? (r : Reading) : Option Setting :=
  match r.pending with
  | some (setting, none) => some setting
  | _ => none

/-- Read an option with the value that is attached to it, if one is. -/
def readOpt (files : Files) (r : Reading) (opt : Opt) (attached : Option String) :
    Except UsageError Reading := do
  match opt, attached with
  | .setting setting, none => return ⟨← r.settle files, some (setting, none)⟩
  | .setting setting, some value => return ⟨← (← r.settle files).set files setting value, none⟩
  | .switch _, some _ => throw .tooManyValues
  | .switch .help, none => let _ ← r.settle files; throw .displayHelp
  | .switch .version, none => let _ ← r.settle files; throw .displayVersion
  | .switch .dryRun, none =>
    let g ← r.settle files
    if g.dryRun then throw .argumentConflict
    return ⟨{ g with dryRun := true }, none⟩

/-- Read what follows two dashes: a name, perhaps with a value after an equals sign. -/
def readLong (files : Files) (scope : Scope) (r : Reading) (text : List Char) :
    Except UsageError Reading :=
  let name := String.ofList (text.takeWhile (· ≠ '='))
  let attached := match text.dropWhile (· ≠ '=') with
    | [] => none
    | _ :: value => some (String.ofList value)
  match scope.long? name with
  | some opt => r.readOpt files opt attached
  | none => .error .unknownArgument

/-- Read what follows one dash: a letter. The rest is its value, perhaps after an equals sign; a
switch ends the command line and so looks at no rest. -/
def readShort (files : Files) (scope : Scope) (r : Reading) (letter : Char) (rest : List Char) :
    Except UsageError Reading :=
  let attached := match rest with
    | [] => none
    | '=' :: value => some (String.ofList value)
    | value => some (String.ofList value)
  match scope.short? letter with
  | some (.setting setting) => r.readOpt files (.setting setting) attached
  | some (.switch switch) => r.readOpt files (.switch switch) none
  | none => .error .unknownArgument

end Reading

def subcommand? : String → Option Scope
  | "generate" => some .generate
  | "apply" => some .apply
  | _ => none

def isSubcommand (text : String) : Bool :=
  (subcommand? text).isSome || text == "help"

/-- Help may be asked for on one command. Commands have no commands of their own. -/
def helpTopic : List String → UsageError
  | [] => .displayHelp
  | [topic] => if isSubcommand topic then .displayHelp else .invalidSubcommand
  | _ => .invalidSubcommand

/-- An argument that is neither an option nor the value of one. The program takes it for a command.
-/
def stray : Scope → UsageError
  | .program => .invalidSubcommand
  | _ => .unknownArgument

/-- After two dashes alone no option is read any more, and nothing else has a place. -/
def afterEscape (scope : Scope) (r : Reading) : List String → Except UsageError Reading
  | [] => .ok r
  | text :: _ =>
    if scope = .program ∧ isSubcommand text then .error .unknownArgument else .error (stray scope)

/-- Read the arguments of a scope. In the program's scope a command ends it; answers the command and
the arguments behind it. -/
def read (files : Files) (scope : Scope) (r : Reading) :
    List String → Except UsageError (Reading × Option (Scope × List String))
  | [] => .ok (r, none)
  | text :: rest =>
    if scope = .program ∧ r.awaited?.isNone ∧ isSubcommand text then
      match subcommand? text with
      | some command => .ok (r, some (command, rest))
      | none => .error (helpTopic rest)
    else match text.toList with
      | ['-', '-'] => do return (← afterEscape scope r rest, none)
      | '-' :: '-' :: long => do read files scope (← r.readLong files scope long) rest
      | '-' :: letter :: more => do read files scope (← r.readShort files scope letter more) rest
      | _ => match r.awaited? with
        | some setting => read files scope { r with pending := some (setting, some text) } rest
        | none => .error (stray scope)

/-- The command of a scope, from its settled options. -/
def Given.command (g : Given) (scope : Scope) : Except UsageError Command :=
  match scope, g.schema with
  | .generate, some schema =>
    .ok (.generate schema (g.action.getD .replace) g.existingTables g.existingIndexes)
  | .apply, some schema => .ok (.apply schema (g.action.getD .replace) g.dryRun)
  | .program, _ => .error .missingSubcommand
  | _, none => .error .missingRequiredArgument

/-- The argument behind an option for the schema, and any value attached to one. -/
def mentionedPaths : List String → List String
  | [] => []
  | text :: rest =>
    let behind := if text = "-s" ∨ text = "--schema" then rest.head?.toList else []
    let attached := match text.toList with
      | '-' :: '-' :: long => [String.ofList ((long.dropWhile (· ≠ '=')).drop 1)]
      | '-' :: 's' :: '=' :: value => [String.ofList value]
      | '-' :: 's' :: value => [String.ofList value]
      | _ => []
    behind ++ attached ++ mentionedPaths rest

end CommandLine

open CommandLine in
/-- Settle the command's scope first, then the program's. -/
def Invocation.parse (files : Files) (args : List String) : Except UsageError Invocation := do
  let (outer, command) ← read files .program {} args
  match command with
  | some (scope, args) =>
    let (inner, _) ← read files scope {} args
    let inner ← inner.settle files
    let command ← inner.command scope
    let outer ← outer.settle files
    return {
      format := (inner.format <|> outer.format).getD .table
      database := inner.database <|> outer.database
      logLevel := (inner.logLevel <|> outer.logLevel).getD .warn
      command }
  | none =>
    let outer ← outer.settle files
    throw (if outer = {} then .noArguments else .missingSubcommand)

end Interleave
