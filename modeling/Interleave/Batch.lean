/-!
# Batches and scripts

A schema change is carried out in up to three batches. Drop and create batches change structure and
stand between markers, so that the target applies each whole or not at all. The seed batch holds
plain inserts.

* `Phase`, `Batch`, `Script`: the phases, the statements of one, and the batches of a change.
* `Batch.withMarkers`: the statements of a batch as they are sent, markers included.
* `Script.flatten`: everything a script sends, in order.
* `Action`: which of the phases a change goes through.
-/

namespace Interleave

/-- Opens a structural batch. -/
def startMarker : String := "START BATCH DDL"

/-- Applies the open batch as one operation. -/
def runMarker : String := "RUN BATCH"

/-- Discards the open batch. -/
def abortMarker : String := "ABORT BATCH"

inductive Phase where
  | drop
  | create
  | seed
deriving DecidableEq

namespace Phase

def isStructural : Phase → Bool
  | .drop | .create => true
  | .seed => false

def label : Phase → String
  | .drop => "drop"
  | .create => "create"
  | .seed => "seed"

end Phase

/-- The statements of one phase, without markers. -/
structure Batch (σ : Type) where
  phase : Phase
  statements : List σ := []
deriving DecidableEq

def Batch.map {σ τ : Type} (f : σ → τ) (b : Batch σ) : Batch τ :=
  ⟨b.phase, b.statements.map f⟩

def Batch.withMarkers (b : Batch String) : List String :=
  if b.phase.isStructural then startMarker :: b.statements ++ [runMarker] else b.statements

structure Script (σ : Type) where
  batches : List (Batch σ) := []
deriving DecidableEq

namespace Script

variable {σ τ : Type}

def map (f : σ → τ) (s : Script σ) : Script τ :=
  ⟨s.batches.map (·.map f)⟩

def flatten (s : Script String) : List String :=
  s.batches.flatMap Batch.withMarkers

/-- Markers do not count. -/
def size (s : Script σ) : Nat :=
  s.batches.foldr (fun b n => b.statements.length + n) 0

/-- The first batch of a phase. -/
def batch? (s : Script σ) (phase : Phase) : Option (Batch σ) :=
  s.batches.find? (·.phase == phase)

end Script

inductive Action where
  | create
  /-- Drop what exists, then create. -/
  | replace
  | drop
deriving DecidableEq

namespace Action

def drops : Action → Bool
  | .replace | .drop => true
  | .create => false

def creates : Action → Bool
  | .create | .replace => true
  | .drop => false

def label : Action → String
  | .create => "create"
  | .replace => "replace"
  | .drop => "drop"

end Action

end Interleave
