import Interleave.Connection
import Interleave.Settings.Error

/-!
# Databases

* `Postgres`: how to reach a PostgreSQL endpoint, either by a connection string or by its parts.
* `Postgres.dialString`: the string to connect with.
* `Database`: an endpoint, or a dry run.
* `Database.ofUrl`, `Database.connect`: from a URL, and to a connection.
-/

namespace Interleave

structure Postgres where
  /-- Wins over the other fields. -/
  connectionString : Option String := none
  host : Option String := none
  user : Option String := none
  database : Option String := none
  /-- Zero stands for the default port. -/
  port : UInt16 := 0
  password : Option String := none
  /-- The schema that is searched for existing objects. -/
  schema : String := "public"
deriving DecidableEq

namespace Postgres

def standardPort : UInt16 := 5432

def effectivePort (p : Postgres) : String :=
  toString (if p.port = 0 then standardPort else p.port).toNat

/-- A backslash goes in front of every `c`. -/
def protect (c : Char) (value : List Char) : List Char :=
  value.flatMap fun d => if d = c then ['\\', d] else [d]

/-- A quote or a backslash inside a quoted value stands after a backslash. The quotes come last, as
their backslashes are not to be protected again. -/
def escapeValue (value : List Char) : List Char :=
  protect '\'' (protect '\\' value)

def quoteValue (value : String) : String :=
  "'" ++ String.ofList (escapeValue value.toList) ++ "'"

/-- The value of a part that has to be set. -/
def part (field : String) : Option String → Except SettingsError String
  | some value => .ok value
  | none => .error (.missingField field)

/-- The string given, or the parts as keys with quoted values. -/
def dialString (p : Postgres) : Except SettingsError String :=
  match p.connectionString with
  | some given => .ok given
  | none => do
    let host ← part "host" p.host
    let user ← part "user" p.user
    let database ← part "database" p.database
    let pairs :=
      ["host=" ++ quoteValue host, "port=" ++ p.effectivePort, "user=" ++ quoteValue user,
        "dbname=" ++ quoteValue database] ++
        (p.password.map fun value => "password=" ++ quoteValue value).toList
    return " ".intercalate pairs

/-- The endpoint in words, for messages. No password in it. -/
def address (p : Postgres) : String :=
  match p.connectionString, p.host with
  | some _, _ => "connection string"
  | none, some host => host ++ ":" ++ p.effectivePort
  | none, none => "unconfigured postgres"

end Postgres

inductive Database where
  | postgres (settings : Postgres)
  /-- Statements are recorded and go nowhere. -/
  | dryRun
deriving DecidableEq

/-- How an endpoint is reached: a connection for a connection string, or the reason why there is
none. -/
abbrev Dialer := (connectionString : String) → Except String Connection

namespace Database

def ofUrl (url : String) : Except SettingsError Database :=
  if url = "dry-run:" then .ok .dryRun
  else if url.startsWith "postgres://" ∨ url.startsWith "postgresql://" then
    .ok (.postgres { connectionString := some url })
  else .error (.unsupportedUrl url)

def runsDry : Database → Bool
  | .dryRun => true
  | .postgres _ => false

def connect (dial : Dialer) : Database → Except ConnectionError Connection
  | .dryRun => .ok (Recorder.connection {})
  | .postgres p => match p.dialString with
    | .error e => .error (.connectFailed p.address e.message)
    | .ok s => match dial s with
      | .error reason => .error (.connectFailed p.address reason)
      | .ok connection => .ok connection

end Database

end Interleave
