import Interleave.Connection
import Interleave.DesignError

/-!
# Running a script

* `Connection.send`: one statement.
* `OpenBatch`: a structural batch between its markers, with the calls `start`, `send`, `commit` and
  `leave`. Every batch is left in the end, and one that was not committed by then is discarded.
* `Connection.runBatch`, `Connection.runScript`: whole batches, up to the first statement that is
  refused.
-/

namespace Interleave

/-- Send a statement. A refusal carries the statement and the database's words. -/
def Connection.send (c : Connection) (statement : String) : Session DesignError Unit := fun sent =>
  (match c.answer sent statement with
    | .ok () => .ok ()
    | .error e => .error (.refusedStatement statement e.message),
   sent ++ [statement])

/-- A structural batch whose start marker was accepted. -/
structure OpenBatch where
  /-- No closing marker has been sent yet. -/
  pending : Bool := true
  /-- How many of its statements were accepted. -/
  accepted : Nat := 0
deriving DecidableEq

namespace OpenBatch

def start (c : Connection) : Session DesignError OpenBatch := do
  c.send startMarker
  return {}

def send (c : Connection) (b : OpenBatch) (statement : String) : Session DesignError OpenBatch := do
  c.send statement
  return { b with accepted := b.accepted + 1 }

/-- Give the batch up. It does not matter what the database answers. -/
def discard (c : Connection) : Session DesignError Unit :=
  tryCatch (c.send abortMarker) fun _ => pure ()

/-- The end of every batch: one that still has no closing marker is given up. -/
def leave (c : Connection) (b : OpenBatch) : Session DesignError Unit :=
  if b.pending then discard c else pure ()

/-- Hand the batch over to the target and leave it. From the run marker on it is the target's, so a
refusal is not followed by another marker. -/
def commit (c : Connection) (b : OpenBatch) : Session DesignError Nat := do
  let b := { b with pending := false }
  try
    c.send runMarker
    pure b.accepted
  finally
    b.leave c

end OpenBatch

structure BatchOutcome where
  phase : Phase
  /-- How many statements were carried out, markers not counted. -/
  statements : Nat
deriving DecidableEq

structure RunOutcome where
  backend : String
  batches : List BatchOutcome
deriving DecidableEq

def RunOutcome.size (r : RunOutcome) : Nat :=
  r.batches.foldr (fun b n => b.statements + n) 0

namespace Connection

/-- Send statements between markers, and give the batch up if one of them is refused. -/
def runStructural (c : Connection) (statements : List String) : Session DesignError Nat := do
  let batch ← OpenBatch.start c
  let batch ← tryCatch (statements.foldlM (OpenBatch.send c) batch) fun e => do
    batch.leave c
    throw e
  batch.commit c

def runBatch (c : Connection) (b : Batch String) : Session DesignError BatchOutcome := do
  if b.phase.isStructural then
    return ⟨b.phase, ← c.runStructural b.statements⟩
  else
    b.statements.forM c.send
    return ⟨b.phase, b.statements.length⟩

def runScript (c : Connection) (s : Script String) : Session DesignError RunOutcome := do
  return ⟨c.backend, ← s.batches.mapM c.runBatch⟩

end Connection

end Interleave
