import Interleave.DesignError
import Interleave.Hierarchy.Cycle
import Interleave.TargetType
import Interleave.Text.LowerCase

/-!
# Layout of interleaved tables

Rows of a child are stored within the rows of its parent. So a parent is created before its
children, and a child's key begins with its parent's.

* `PlacedTable`: a table with its full key.
* `Layout`: placed tables in creation order.
* `Layout.ofTables`: place the tables of a schema. They are checked one by one, then searched for
  cycles, and then placed in passes over the input; a pass places each table whose parent already
  stands.
-/

namespace Interleave

structure PlacedTable where
  table : Table
  /-- The parent's key, then the table's own key columns that it lacks. -/
  key : List String
deriving DecidableEq

def PlacedTable.name (p : PlacedTable) : String :=
  p.table.name

/-- Placed tables in creation order: each stands after its parent. -/
structure Layout where
  order : List PlacedTable := []
deriving DecidableEq

namespace Layout

def removalOrder (l : Layout) : List PlacedTable :=
  l.order.reverse

/-- The table of exactly this name. -/
def find? (l : Layout) (name : String) : Option PlacedTable :=
  l.order.find? (·.name == name)

/-- The position in creation order of the table of exactly this name. -/
def index? (l : Layout) (name : String) : Option Nat :=
  l.order.findIdx? (·.name == name)

/-- A table of this name, ignoring case, is declared. -/
def declares (l : Layout) (name : String) : Bool :=
  l.order.any fun p => Text.sameName p.name name

end Layout

namespace Hierarchy

/-- No name repeats ignoring case; `seen` are the lower-case names met so far. -/
def checkNames (seen : List String) : List Table → Except DesignError Unit
  | [] => .ok ()
  | t :: rest =>
    let name := Text.lowerCase t.name
    if name ∈ seen then .error (.duplicateTable t.name) else checkNames (name :: seen) rest

/-- The table has a key, the key's columns are declared, and so is the parent. -/
def checkTable (tables : List Table) (t : Table) : Except DesignError Unit :=
  if t.primaryKey.isEmpty then .error (.missingPrimaryKey t.name)
  else match t.primaryKey.find? fun column => !t.declares column with
    | some column => .error (.unknownColumn t.name column)
    | none => match t.parent with
      | none => .ok ()
      | some parent =>
        if tables.any (·.name == parent) then .ok () else .error (.unknownTable parent)

/-- The key that a table takes over, once its parent stands. A root takes over none. -/
def inheritedKey? (placed : Layout) (t : Table) : Option (List String) :=
  match t.parent with
  | none => some []
  | some parent => (placed.find? parent).map (·.key)

/-- A child declares every column of its parent's key. -/
def place (inherited : List String) (t : Table) : Except DesignError PlacedTable :=
  match inherited.find? fun column => !t.declares column with
  | some column => .error (.unknownColumn t.name column)
  | none => .ok ⟨t, inherited ++ t.primaryKey.filter fun column => !inherited.contains column⟩

/-- One pass: place each waiting table whose parent stands. Answers the layout and the tables still
waiting. -/
def pass (placed : Layout) : List Table → Except DesignError (Layout × List Table)
  | [] => .ok (placed, [])
  | t :: rest => match inheritedKey? placed t with
    | none => do
      let (placed, waiting) ← pass placed rest
      return (placed, t :: waiting)
    | some inherited => do
      let p ← place inherited t
      pass ⟨placed.order ++ [p]⟩ rest

/-- Passes until no table waits. A pass that places nothing leaves tables that never find their
parent. -/
def passes (placed : Layout) (waiting : List Table) : Except DesignError Layout :=
  if waiting.isEmpty then .ok placed
  else match pass placed waiting with
    | .error e => .error e
    | .ok (placed, rest) =>
      if rest.length < waiting.length then passes placed rest
      else .error (.cyclicHierarchy (rest.map (·.name)))
termination_by waiting.length

end Hierarchy

open Hierarchy in
/-- Roots keep their declaration order. A child is placed as soon as a pass meets it after its
parent, so children declared behind their parent come before those declared in front of it. -/
def Layout.ofTables (tables : List Table) : Except DesignError Layout := do
  checkNames [] tables
  tables.forM (checkTable tables)
  match firstCycle? tables with
  | some cycle => throw (.cyclicHierarchy cycle)
  | none => passes {} tables

namespace PlacedTable

def isKeyColumn (p : PlacedTable) (column : String) : Bool :=
  p.key.contains column

/-- The clause that stores a child within its parent. -/
def interleaving (p : PlacedTable) : String :=
  match p.table.parent with
  | none => ""
  | some parent =>
    ", INTERLEAVE IN PARENT " ++ parent ++ (if p.table.cascade then " ON DELETE CASCADE" else "")

def createText (p : PlacedTable) : String :=
  "create table " ++ p.name ++
    " (" ++
      ",".intercalate (p.table.columns.map fun c => c.declaration (p.isKeyColumn c.name)) ++ ")" ++
    " PRIMARY KEY (" ++ ",".intercalate p.key ++ ")" ++ p.interleaving

end PlacedTable

end Interleave
