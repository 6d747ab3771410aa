import Interleave.Hierarchy.Layout
import Interleave.Schema

/-!
# Counter tables

A counter table has one column and one row, which holds the next value. It is seeded once.

* `Counter.ofSequences`: the counters that a schema's sequences ask for. Sequences that name one
  table, ignoring case, share it, and have to agree on how it counts.
-/

namespace Interleave

structure Counter where
  table : String
  initialValue : Int64
  strategy : Strategy
deriving DecidableEq

namespace Counter

def createText (c : Counter) : String :=
  "create table " ++ c.table ++ " (next_val " ++ TargetType.int64.token ++ ") PRIMARY KEY ()"

/-- The insert that primes the counter, in the form that belongs to its strategy. -/
def seedText (c : Counter) : String :=
  let first := toString c.initialValue.toInt
  match c.strategy with
  | .sequential => "INSERT INTO " ++ c.table ++ " (next_val) VALUES(" ++ first ++ ")"
  | .bitReversed => "insert into " ++ c.table ++ " (next_val) values ( " ++ first ++ " )"

def ofSequence (s : Sequence) : Counter :=
  ⟨s.backingTable, s.initialValue, s.strategy⟩

/-- The two count in the same way. -/
def agrees (c d : Counter) : Bool :=
  c.strategy == d.strategy && c.initialValue == d.initialValue

/-- Add the counter of one sequence to those of the sequences before it. -/
def add (layout : Layout) (counters : List Counter) (s : Sequence) :
    Except DesignError (List Counter) :=
  let wanted := ofSequence s
  if layout.declares wanted.table then .error (.duplicateTable wanted.table)
  else match counters.find? fun c => Text.sameName c.table wanted.table with
    | none => .ok (counters ++ [wanted])
    | some c => if c.agrees wanted then .ok counters else .error (.conflictingSequence wanted.table)

def ofSequences (layout : Layout) (sequences : List Sequence) : Except DesignError (List Counter) :=
  sequences.foldlM (add layout) []

end Counter

end Interleave
