import Interleave.Schema

/-!
# The shared counter

Sequences that ask for nothing in particular share one counter, and the settings say which.

* `SharedCounter`: the table of that counter and its first value.
* `SharedCounter.apply`: point the shared sequences of a schema at it.
-/

namespace Interleave

structure SharedCounter where
  sharedTable : String := sharedSequenceName
  initialValue : Int64 := 1
deriving DecidableEq

/-- A sequential sequence under the shared name, without a table of its own. -/
def Sequence.isShared (s : Sequence) : Bool :=
  s.strategy == .sequential && s.name == sharedSequenceName && s.table.isNone

namespace SharedCounter

/-- A shared sequence takes the configured table, and the configured first value if it has none of
its own. -/
def adjust (d : SharedCounter) (s : Sequence) : Sequence :=
  if s.isShared then
    { s with
      table := if d.sharedTable = sharedSequenceName then s.table else some d.sharedTable
      initialValue := if s.initialValue = 1 then d.initialValue else s.initialValue }
  else s

def apply (d : SharedCounter) (schema : Schema) : Schema :=
  { schema with sequences := schema.sequences.map d.adjust }

end SharedCounter

end Interleave
