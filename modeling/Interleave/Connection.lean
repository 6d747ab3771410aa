import Interleave.Catalog
import Interleave.Diagnostic

/-!
# Connections

A connection carries statements to a database, one at a time, and says whether each was accepted.

* `Connection`: its answers, each of which may depend on everything that was sent before.
* `Session`: a computation that sends statements. It keeps what was sent also when it fails.
* `Recorder`: a connection with no database behind it. What it is sent stays in the session's
  record, and its answers are fixed in advance.
-/

namespace Interleave

inductive ConnectionError where
  | connectFailed (target message : String)
  | statementFailed (message : String)
  | metadataFailed (message : String)
deriving DecidableEq

namespace ConnectionError

/-- A refused statement shows the database's own words. -/
def message : ConnectionError → String
  | .connectFailed target message => "Failed to connect to '" ++ target ++ "': " ++ message
  | .statementFailed message => message
  | .metadataFailed message => "Failed to read existing objects: " ++ message

def diagnostic : ConnectionError → Diagnostic
  | .connectFailed target message =>
    ⟨"ConnectFailed", [("target", .text target), ("message", .text message)]⟩
  | .statementFailed message => ⟨"StatementFailed", [("message", .text message)]⟩
  | .metadataFailed message => ⟨"MetadataFailed", [("message", .text message)]⟩

end ConnectionError

structure Connection where
  backend : String
  /-- The answer to a statement, after the statements sent so far. -/
  answer : (sent : List String) → (statement : String) → Except ConnectionError Unit
  /-- The objects that exist, after the statements sent so far. -/
  existing : (sent : List String) → Except ConnectionError Catalog

/-- The state is the list of statements sent so far, in order. -/
abbrev Session (ε : Type) := ExceptT ε (StateM (List String))

structure Recorder where
  /-- The objects it claims to hold. -/
  existing : Catalog := {}
  /-- Statements refused whenever they are sent, with the message. The last entry for a statement
  counts. -/
  refusedTexts : List (String × String) := []
  /-- Positions at which whatever is sent is refused, with the message. The first statement has
  position 1. -/
  refusedPositions : List (Nat × String) := []
  /-- Why the existing objects cannot be read. -/
  metadataFailure : Option String := none

namespace Recorder

def refusal? (r : Recorder) (sent : List String) (statement : String) : Option String :=
  (r.refusedTexts.reverse.lookup statement).orElse fun _ =>
    r.refusedPositions.reverse.lookup (sent.length + 1)

def connection (r : Recorder) : Connection where
  backend := "Recording"
  answer sent statement := match r.refusal? sent statement with
    | some message => .error (.statementFailed message)
    | none => .ok ()
  existing _ := match r.metadataFailure with
    | some message => .error (.metadataFailed message)
    | none => .ok r.existing

end Recorder

end Interleave
