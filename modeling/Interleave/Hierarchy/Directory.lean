import Interleave.Hierarchy.Layout
import Std.Data.HashMap.Basic

/-!
# A layout with a directory

While tables are placed, a child asks for its parent again and again. The answer is looked up:
beside the placed tables there are positions under their names, and each placing enters one. A
lookup relies on them, and has no answer where they lead astray.

* `Directory`: placed tables, and positions by name.
* `Directory.lookup`, `tableOf`: the table of a name, which may be unknown, or must not.
* `Building`: a directory between two steps of its building. A step meets the next table of a pass,
  or begins a pass.
-/

namespace Interleave

/-- Placed tables in creation order, and where the table of a name is to be found among them. -/
structure Directory extends Layout where
  positions : Std.HashMap String Nat := {}

namespace Directory

/-- Why a directory cannot be built. -/
inductive Halt where
  | design (error : DesignError)
  /-- A name that is relied on has no position, or there is no table at its position. -/
  | astray (name : String)
deriving DecidableEq

def position? (d : Directory) (name : String) : Option Nat :=
  d.positions[name]?

/-- The table at a position, where there must be one. -/
def tableAt (d : Directory) (name : String) (position : Nat) : Except Halt PlacedTable :=
  match d.order[position]? with
  | none => .error (.astray name)
  | some p => .ok p

/-- The table of exactly this name, if the name has a position. -/
def lookup (d : Directory) (name : String) : Except Halt (Option PlacedTable) :=
  match d.position? name with
  | none => .ok none
  | some position => some <$> d.tableAt name position

/-- The table of exactly this name, which must have a position. -/
def tableOf (d : Directory) (name : String) : Except Halt PlacedTable :=
  match d.position? name with
  | none => .error (.astray name)
  | some position => d.tableAt name position

/-- A root can be placed at any time, and a child once its parent has a position. -/
def isReady (d : Directory) (t : Table) : Bool :=
  match t.parent with
  | none => true
  | some parent => d.positions.contains parent

/-- A child is placed with the key of its parent, which is looked up. -/
def plan (d : Directory) (t : Table) : Except Halt PlacedTable := do
  let inherited ← match t.parent with
    | none => pure []
    | some parent => (·.key) <$> d.tableOf parent
  (Hierarchy.place inherited t).mapError .design

/-- The position of a name that has one already is overwritten. -/
def enter (d : Directory) (p : PlacedTable) : Directory :=
  { order := d.order ++ [p], positions := d.positions.insert p.name d.order.length }

end Directory

/-- A directory between two steps of its building. -/
structure Building where
  directory : Directory := {}
  /-- The tables that the pass has still to meet. -/
  ahead : List Table
  /-- The tables that it has met before they were ready. -/
  left : List Table := []
  /-- The number of tables that were placed when it began. -/
  stood : Nat := 0

namespace Building

def start (tables : List Table) : Building where
  ahead := tables

/-- Every table is placed. -/
def isFinished (b : Building) : Bool :=
  b.ahead.isEmpty && b.left.isEmpty

/-- Meet the next table, or begin the next pass with the tables that are left. A pass that has
placed nothing is the last one. -/
def step (b : Building) : Except Directory.Halt Building :=
  match b.ahead with
  | t :: ahead =>
    if b.directory.isReady t then do
      let p ← b.directory.plan t
      return { b with directory := b.directory.enter p, ahead := ahead }
    else return { b with ahead := ahead, left := b.left ++ [t] }
  | [] =>
    if b.directory.order.length = b.stood then
      .error (.design (.cyclicHierarchy (b.left.map (·.name))))
    else return { b with ahead := b.left, left := [], stood := b.directory.order.length }

end Building

end Interleave
