import Interleave.Batch

/-!
# Stages of a draft

* `Stage`: how far a script under construction has come.
* `Stage.open?`, `Stage.close?`: the moves between stages. A drop batch may only come first, a
  create batch first or after it, a seed batch after the create batch.
* `Goal`: what a refused call wanted.
-/

namespace Interleave

inductive Stage where
  | idle
  /-- A batch of this phase takes statements. -/
  | opened (phase : Phase)
  /-- A batch of this phase was the last to be closed. -/
  | closed (phase : Phase)
  | done
deriving DecidableEq

namespace Stage

def phaseLabel : Phase → String
  | .drop => "DROP"
  | .create => "CREATE"
  | .seed => "SEED"

def label : Stage → String
  | .idle => "IDLE"
  | .opened phase => phaseLabel phase ++ "_BATCH_OPEN"
  | .closed phase => phaseLabel phase ++ "_BATCH_CLOSED"
  | .done => "DONE"

def open? : Stage → Phase → Option Stage
  | .idle, .drop => some (.opened .drop)
  | .idle, .create | .closed .drop, .create => some (.opened .create)
  | .closed .create, .seed => some (.opened .seed)
  | _, _ => none

def close? : Stage → Option Stage
  | .opened phase => some (.closed phase)
  | _ => none

/-- A script may end once a batch is closed. -/
def finish? : Stage → Option Stage
  | .closed _ => some .done
  | _ => none

end Stage

inductive Goal where
  | stage (s : Stage)
  | statement
  | batchClose
deriving DecidableEq

def Goal.label : Goal → String
  | .stage s => s.label
  | .statement => "statement"
  | .batchClose => "batch close"

end Interleave
