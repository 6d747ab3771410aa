import Interleave.Design
import Interleave.Failure
import Interleave.Report
import Interleave.Schema.Document
import Interleave.Settings

/-!
# Commands

* `Connection.migrate`: bring a database to a schema.
* `Command.generateReport`, `Command.applyReport`: what the commands do, up to their reports.
* `Command.run`: a command up to its output.
* `Application.run`: the same from a command line, with the settings that are found.
-/

namespace Interleave

/-- The objects that exist, as far as the connection can tell. -/
def Connection.catalog (c : Connection) : Session Failure Catalog := fun sent =>
  ((c.existing sent).mapError .connection, sent)

/-- Look up what exists, write the script, run it. Nothing is sent before the script is complete. -/
def Connection.migrate (c : Connection) (schema : Schema) (action : Action) :
    Session Failure RunOutcome := do
  let existing ← c.catalog
  let script ← MonadExcept.ofExcept ((schema.scriptText existing action).mapError Failure.schema)
  ExceptT.adapt .schema (c.runScript script)

/-- What commands need to know besides their own options. -/
structure Setup where
  /-- Without a database every command runs dry. -/
  database : Option Database := none
  sequence : SharedCounter := {}

namespace Command

def readSchema (files : Files) (path : String) : Except Failure Schema :=
  match files.read path with
  | .error cause => .error (.unreadableSchema path cause)
  | .ok text => match Schema.parse? text with
    | some schema => .ok schema
    | none => .error (.malformedSchema path)

def generateReport (setup : Setup) (schema : Schema) (action : Action) (existing : Catalog) :
    Except Failure GenerateReport := do
  let script ← ((setup.sequence.apply schema).scriptText existing action).mapError .schema
  return .ofScript action script

/-- A dry run keeps what it would have sent. -/
def applyReport (setup : Setup) (dial : Dialer) (schema : Schema) (action : Action)
    (dryRun : Bool) : Except Failure ApplyReport := do
  let schema := setup.sequence.apply schema
  let database := setup.database.getD .dryRun
  if dryRun || database.runsDry then
    let (result, sent) := (Recorder.connection {}).migrate schema action []
    return { ApplyReport.ofOutcome action true (← result) with statements := sent }
  else
    let connection ← (database.connect dial).mapError .connection
    let (result, _) := connection.migrate schema action []
    return .ofOutcome action false (← result)

/-- The output of a command. -/
def run (setup : Setup) (files : Files) (dial : Dialer) (format : Format) :
    Command → Except Failure String
  | .generate path action existingTables existingIndexes => do
    let schema ← readSchema files path
    let report ← generateReport setup schema action (.ofNames existingTables existingIndexes)
    return report.render format
  | .apply path action dryRun => do
    let schema ← readSchema files path
    let report ← applyReport setup dial schema action dryRun
    return report.render format

end Command

namespace Application

def version : String := "spanner_ddl 0.1.0"

/-- The output of the program. The settings file is read, and has to be in order, also when a
database is named on the command line. -/
def run (files : Files) (databaseUrl : Option String) (dial : Dialer) (args : List String) :
    Except Failure String := do
  let invocation ← (Invocation.parse files args).mapError .usage
  let settings ← (Settings.load? files).mapError .settings
  let database ← (match invocation.database with
    | some url => Database.ofUrl url
    | none => Database.choose settings databaseUrl).mapError .settings
  let setup : Setup := ⟨some database, (settings.getD {}).sequence⟩
  invocation.command.run setup files dial invocation.format

end Application

end Interleave
