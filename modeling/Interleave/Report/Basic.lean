import Interleave.Execution

/-!
# Reports of the commands

* `GenerateReport`: a script that was generated.
* `ApplyReport`: how a script was carried out, or recorded in a dry run.
* `Format`: how a report is written.
-/

namespace Interleave

structure GenerateReport where
  action : Action
  /-- The number of statements in all batches, markers not counted. -/
  total : Nat
  batches : List (Batch String)
deriving DecidableEq

def GenerateReport.ofScript (action : Action) (script : Script String) : GenerateReport :=
  ⟨action, script.size, script.batches⟩

structure ApplyReport where
  action : Action
  backend : String
  dryRun : Bool
  total : Nat
  batches : List BatchOutcome
  /-- What a dry run recorded. -/
  statements : List String := []
deriving DecidableEq

def ApplyReport.ofOutcome (action : Action) (dryRun : Bool) (outcome : RunOutcome) : ApplyReport :=
  { action, dryRun
    backend := outcome.backend
    total := outcome.size
    batches := outcome.batches }

inductive Format where
  | table
  | json
  | toon
deriving DecidableEq

end Interleave
