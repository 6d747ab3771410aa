import Interleave.Catalog
import Interleave.Draft
import Interleave.Schema
import Interleave.Statement

/-!
# The script of a schema change

* `Design`: a schema made ready for the target: its layout, its counters and its constraints'
  objects.
* `Design.dropStatements`, `createStatements`, `seedStatements`: the three batches.
* `Schema.script`, `Schema.scriptText`: the script of an action on a database that holds the objects
  of a catalog, and its statements as texts.

What is wrong with a schema is found before the first batch is opened: the tables first, then the
sequences, then the constraints in declaration order.
-/

namespace Interleave

structure Design where
  layout : Layout
  counters : List Counter
  /-- Grouped by owner in creation order, and in declaration order within a group. -/
  fragments : List Fragment

namespace Design

/-- `f` belongs to a table that is created no later than the table of `g`. -/
def ownerOrder (layout : Layout) (f g : Fragment) : Bool :=
  (layout.index? f.owner).getD 0 ≤ (layout.index? g.owner).getD 0

def ofSchema (schema : Schema) : Except DesignError Design := do
  let layout ← Layout.ofTables schema.tables
  let counters ← Counter.ofSequences layout schema.sequences
  let fragments ← schema.constraints.mapM (·.toFragment layout)
  return ⟨layout, counters, (fragments.filterMap id).mergeSort (ownerOrder layout)⟩

def ofSort (d : Design) (sort : Fragment.Sort) : List Fragment :=
  d.fragments.filter (·.sort == sort)

/-- Existing indexes, then existing tables with children before parents, then existing counters. -/
def dropStatements (d : Design) (existing : Catalog) : List Statement :=
  (d.fragments.filter fun f => existing.containsIndex f.name).filterMap Fragment.drop? ++
    ((d.layout.removalOrder.filter fun p => existing.containsTable p.name).map fun p =>
      .dropTable p.name) ++
    ((d.counters.filter fun c => existing.containsTable c.table).map fun c => .dropTable c.table)

/-- Tables with parents before children, counters, and then the objects that need the tables. -/
def createStatements (d : Design) : List Statement :=
  d.layout.order.map .createTable ++ d.counters.map .createCounter ++ (d.ofSort .index).map .add ++
    (d.ofSort .foreignKey).map .add ++ (d.ofSort .check).map .add

def seedStatements (d : Design) : List Statement :=
  d.counters.map .seed

/-- The drop batch is there even if nothing exists; the seed batch only if there is a counter to
seed. -/
def script (d : Design) (existing : Catalog) (action : Action) :
    Except DesignError (Script Statement) := do
  let draft : Draft Statement := {}
  let draft ← if action.drops then draft.addBatch .drop (d.dropStatements existing) else pure draft
  let draft ← if action.creates then draft.addBatch .create d.createStatements else pure draft
  let draft ←
    if action.creates && !d.counters.isEmpty then draft.addBatch .seed d.seedStatements
    else pure draft
  draft.finish

end Design

namespace Schema

/-- What the change consists of. -/
def script (schema : Schema) (existing : Catalog) (action : Action) :
    Except DesignError (Script Statement) := do
  let design ← Design.ofSchema schema
  design.script existing action

/-- What is sent to carry the change out. -/
def scriptText (schema : Schema) (existing : Catalog) (action : Action) :
    Except DesignError (Script String) := do
  let script ← schema.script existing action
  return script.map Statement.text

end Schema

end Interleave
