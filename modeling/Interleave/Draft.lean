import Interleave.DesignError

/-!
# Drafting a script

A script is drafted one batch at a time.

* `Draft`: the closed batches, the batch that takes statements, and the stage.
* `Call`: a call on a draft. `Call.run` carries it out where the draft stands.
* `Draft.openBatch`, `push`, `closeBatch`: the draft after a call that is not refused.
* `Draft.finish`: the script, once a batch is closed.
* `Draft.addBatch`: a whole batch.
-/

namespace Interleave

structure Draft (σ : Type) where
  stage : Stage := .idle
  closed : List (Batch σ) := []
  current : Option (Batch σ) := none
deriving DecidableEq

/-- Work on a draft. What was written before a refusal stays written. -/
abbrev Drafting (σ : Type) := ExceptT DesignError (StateM (Draft σ))

inductive Call (σ : Type) where
  | openBatch (phase : Phase)
  | push (statement : σ)
  | closeBatch
deriving DecidableEq

variable {σ : Type}

namespace Call

/-- What the call wants, as a refusal names it. -/
def goal : Call σ → Goal
  | .openBatch phase => .stage (.opened phase)
  | .push _ => .statement
  | .closeBatch => .batchClose

def refuse (c : Call σ) : Drafting σ Unit := do
  throw (.invalidTransition (← get).stage c.goal)

def run (c : Call σ) : Drafting σ Unit := do
  let d ← get
  match c with
  | .openBatch phase => match d.stage.open? phase with
    | some stage => set { d with stage, current := some ⟨phase, []⟩ }
    | none => c.refuse
  | .push statement => match d.current with
    | some batch =>
      set { d with current := some { batch with statements := batch.statements ++ [statement] } }
    | none => c.refuse
  | .closeBatch => match d.stage.close? with
    | some stage => set { d with stage, closed := d.closed ++ d.current.toList, current := none }
    | none => c.refuse

end Call

namespace Draft

/-- The draft after a call that is not refused. -/
def after? (d : Draft σ) (c : Call σ) : Except DesignError (Draft σ) :=
  let (answer, d) := c.run d
  answer.map fun _ => d

def openBatch (d : Draft σ) (phase : Phase) : Except DesignError (Draft σ) :=
  d.after? (.openBatch phase)

def push (d : Draft σ) (statement : σ) : Except DesignError (Draft σ) :=
  d.after? (.push statement)

def closeBatch (d : Draft σ) : Except DesignError (Draft σ) :=
  d.after? .closeBatch

def finish (d : Draft σ) : Except DesignError (Script σ) :=
  match d.stage.finish? with
  | some _ => .ok ⟨d.closed⟩
  | none => .error (.invalidTransition d.stage (.stage .done))

def addBatch (d : Draft σ) (phase : Phase) (statements : List σ) :
    Except DesignError (Draft σ) := do
  let d ← d.openBatch phase
  let d ← statements.foldlM push d
  d.closeBatch

end Draft

end Interleave
