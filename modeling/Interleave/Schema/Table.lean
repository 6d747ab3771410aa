/-!
# Tables and columns

The neutral description of a table, before any target is chosen.

* `DataType`: what a column holds.
* `Column`, `Table`: a table names its columns, its key, and perhaps the parent it is interleaved
  in.
-/

namespace Interleave

inductive DataType where
  | bool
  | int8
  | int16
  | int32
  | int64
  | float32
  | float64
  | numeric
  | string
  | text
  | bytes
  | blob
  | date
  | timestamp
  | json
  | array (element : DataType)
deriving DecidableEq

/-- How many arrays a type nests. -/
def DataType.nesting : DataType → Nat
  | .array element => element.nesting + 1
  | _ => 0

structure Column where
  name : String
  type : DataType
  nullable : Bool := true
  /-- The longest value of a string or bytes column. -/
  length : Option UInt64 := none
deriving DecidableEq

namespace Column

def mandatory (c : Column) : Column :=
  { c with nullable := false }

def sized (c : Column) (length : UInt64) : Column :=
  { c with length := some length }

end Column

structure Table where
  name : String
  columns : List Column := []
  primaryKey : List String := []
  /-- The table in whose rows the rows of this one are stored. -/
  parent : Option String := none
  /-- Deleting a parent row deletes its children. Without a parent this says nothing. -/
  cascade : Bool := false
deriving DecidableEq

namespace Table

def addColumn (t : Table) (c : Column) : Table :=
  { t with columns := t.columns ++ [c] }

def keyedBy (t : Table) (columns : List String) : Table :=
  { t with primaryKey := columns }

def interleavedIn (t : Table) (parent : String) : Table :=
  { t with parent := some parent }

def cascading (t : Table) : Table :=
  { t with cascade := true }

/-- The table declares a column of exactly this name. -/
def declares (t : Table) (column : String) : Bool :=
  t.columns.any (·.name == column)

end Table

end Interleave
