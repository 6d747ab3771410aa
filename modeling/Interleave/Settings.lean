import Interleave.Files
import Interleave.Json.Decode
import Interleave.Json.Reader
import Interleave.Settings.Database
import Interleave.Settings.SharedCounter

/-!
# Settings

Settings come from a file in the working directory.

* `Settings`: the contents of the file.
* `Settings.parse?`, `Settings.load`, `Settings.load?`: from a text, from the file, and from the
  file if there is one.
* `Database.choose`: the database to use. The file counts first, the environment second, and without
  either the program runs dry.
-/

namespace Interleave

structure Settings where
  database : Option Database := none
  sequence : SharedCounter := {}
deriving DecidableEq

def settingsFile : String := ".spanner_ddl.json"

open Json (Decoder)
open Json.Decode

/-- The fields of a PostgreSQL endpoint, all of which may be left out. -/
def Postgres.ofFields? (room : Nat) : List (Option Json) → Option Postgres
  | [connectionString, host, user, database, port, password, schema] => do
    return {
      connectionString := ← defaulted none (nullable text) room connectionString
      host := ← defaulted none (nullable text) room host
      user := ← defaulted none (nullable text) room user
      database := ← defaulted none (nullable text) room database
      port := ← defaulted 0 uint16 room port
      password := ← defaulted none (nullable text) room password
      schema := ← defaulted "public" text room schema }
  | _ => none

def Database.decode : Decoder Database := fun room j => do
  let (kind, held) ← tagged "type" room j
  match kind with
  | "postgres" =>
    let names := ["connection_string", "host", "user", "database", "port", "password", "schema"]
    return .postgres (← Postgres.ofFields? (room - 1) (← fields names held))
  | "dry_run" => if isEmptyKind held then return .dryRun else none
  | _ => none

def SharedCounter.decode : Decoder SharedCounter :=
  record ["shared_table", "initial_value"] fun room => fun
    | [sharedTable, initialValue] => do
      return {
        sharedTable := ← defaulted sharedSequenceName text room sharedTable
        initialValue := ← defaulted 1 int64 room initialValue }
    | _ => none

def Settings.decode : Decoder Settings :=
  record ["database", "sequence"] fun room => fun
    | [database, sequence] => do
      return {
        database := ← defaulted none (nullable Database.decode) room database
        sequence := ← defaulted {} SharedCounter.decode room sequence }
    | _ => none

namespace Settings

def parse? (text : String) : Option Settings :=
  (Json.parse? text).bind (Settings.decode Json.maxNesting)

def load (files : Files) : Except SettingsError Settings :=
  match files settingsFile with
  | none => .error (.notFound settingsFile)
  | some entry => match entry.text with
    | .error cause => .error (.readFailed settingsFile cause)
    | .ok text => match parse? text with
      | some settings => .ok settings
      | none => .error (.invalidJson settingsFile)

/-- The file need not be there. -/
def load? (files : Files) : Except SettingsError (Option Settings) :=
  match load files with
  | .ok settings => .ok (some settings)
  | .error (.notFound _) => .ok none
  | .error e => .error e

end Settings

/-- `url` is the one that the environment gives. -/
def Database.choose (settings : Option Settings) (url : Option String) :
    Except SettingsError Database :=
  match settings.bind (·.database), url with
  | some database, _ => .ok database
  | none, some url => Database.ofUrl url
  | none, none => .ok .dryRun

end Interleave
