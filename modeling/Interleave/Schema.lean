import Interleave.Schema.Table

/-!
# Schemas

* `Constraint`: uniqueness, a plain index, a foreign key or a check, on some columns of a table and
  perhaps with a name of its own.
* `Sequence`: a wanted counter; `Sequence.backingTable` is the table that backs it. The target has
  no columns that number themselves, so identifiers are taken from counter tables.
* `Strategy.identifier`: the identifier that a counter value stands for.
* `Schema`: tables, constraints and sequences in declaration order.
-/

namespace Interleave

inductive Constraint.Kind where
  | unique
  | index
  /-- No referenced columns means the primary key of the referenced table. -/
  | foreignKey (references : String) (referencedColumns : List String)
  /-- `tables` are the tables that the expression reads. -/
  | check (expression : String) (tables : List String)
deriving DecidableEq

structure Constraint where
  kind : Constraint.Kind
  table : String
  columns : List String := []
  /-- The name of the resulting object; without it, one is derived. -/
  name : Option String := none
deriving DecidableEq

namespace Constraint

def unique (table : String) (columns : List String) : Constraint :=
  { kind := .unique, table, columns }

def index (table : String) (columns : List String) : Constraint :=
  { kind := .index, table, columns }

def foreignKey (table : String) (columns : List String) (references : String) : Constraint :=
  { kind := .foreignKey references [], table, columns }

def check (table expression : String) : Constraint :=
  { kind := .check expression [], table }

def named (c : Constraint) (name : String) : Constraint :=
  { c with name := some name }

/-- Choose the referenced columns of a foreign key. Other kinds have none to choose. -/
def referencing (c : Constraint) (columns : List String) : Constraint :=
  match c.kind with
  | .foreignKey references _ => { c with kind := .foreignKey references columns }
  | _ => c

end Constraint

inductive Strategy where
  /-- Identifiers grow with the counter. -/
  | sequential
  /-- The counter's bits are reversed, which spreads neighbouring counters over the key space. -/
  | bitReversed
deriving DecidableEq

/-- Reversal leaves the sign out: it is masked, the word is turned around, and the shift puts the
other 63 bits back into the places below the sign. -/
def Strategy.identifier (strategy : Strategy) (counter : Int64) : Int64 :=
  match strategy with
  | .sequential => counter
  | .bitReversed => .ofBitVec ((counter.toBitVec &&& Int64.maxValue.toBitVec).reverse >>> 1)

structure Sequence where
  name : String
  /-- The counter table; without it, the sequence's own name is the table's. -/
  table : Option String := none
  initialValue : Int64 := 1
  strategy : Strategy := .sequential
deriving DecidableEq

/-- The counter that sequences share when none is asked for by name. -/
def sharedSequenceName : String := "hibernate_sequence"

namespace Sequence

def shared : Sequence :=
  { name := sharedSequenceName }

def bitReversed (keyColumn : String) (initialValue : Int64) : Sequence :=
  { name := keyColumn, initialValue, strategy := .bitReversed }

def backingTable (s : Sequence) : String :=
  s.table.getD s.name

end Sequence

structure Schema where
  tables : List Table := []
  constraints : List Constraint := []
  sequences : List Sequence := []
deriving DecidableEq

end Interleave
