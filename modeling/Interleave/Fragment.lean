import Interleave.DerivedName
import Interleave.Hierarchy.Layout
import Interleave.Schema
import Interleave.Text.CharSet

/-!
# Constraints on the target

The target has no unique constraint, so uniqueness becomes a unique index. Foreign keys and checks
of one table are added to a table that exists. Anything else is refused.

* `Fragment`: the object that a constraint becomes.
* `Constraint.toFragment`: that object, if the layout has room for it. A unique constraint over
  exactly the primary key needs none.
-/

namespace Interleave

/-- An object that belongs to `table` and is called `name`. -/
inductive Fragment where
  | index (table name : String) (unique : Bool) (columns : List String)
  | foreignKey (table name : String) (columns : List String) (references : String)
    (target : List String)
  | check (table name expression : String)
deriving DecidableEq

/-- The sorts of objects, in the order in which they are created. -/
inductive Fragment.Sort where
  | index
  | foreignKey
  | check
deriving DecidableEq

def Fragment.Sort.label : Fragment.Sort → String
  | .index => "index"
  | .foreignKey => "foreign_key"
  | .check => "check"

namespace Fragment

def sort : Fragment → Fragment.Sort
  | .index .. => .index
  | .foreignKey .. => .foreignKey
  | .check .. => .check

/-- The table that the object belongs to. -/
def owner : Fragment → String
  | .index table _ _ _ | .foreignKey table _ _ _ _ | .check table _ _ => table

def name : Fragment → String
  | .index _ name _ _ | .foreignKey _ name _ _ _ | .check _ name _ => name

def createText : Fragment → String
  | .index table name unique columns =>
    "create " ++ (if unique then "unique " else "") ++ "index " ++ name ++ " on " ++ table ++
      " (" ++ ",".intercalate columns ++ ")"
  | .foreignKey table name columns references target =>
    "alter table " ++ table ++ " add constraint " ++ name ++
      " foreign key (" ++ ",".intercalate columns ++ ")" ++
      " references " ++ references ++ " (" ++ ",".intercalate target ++ ")"
  | .check table name expression =>
    "alter table " ++ table ++ " add constraint " ++ name ++ " check (" ++ expression ++ ")"

end Fragment

namespace Constraint

/-- The layout's table of this name. -/
def resolve (layout : Layout) (table : String) : Except DesignError PlacedTable :=
  match layout.find? table with
  | some placed => .ok placed
  | none => .error (.unknownTable table)

/-- Every one of the columns is declared on the table. -/
def checkColumns (placed : PlacedTable) (columns : List String) : Except DesignError Unit :=
  match columns.find? fun column => !placed.table.declares column with
  | some column => .error (.unknownColumn placed.name column)
  | none => .ok ()

/-- An index on `owner`; none if it is a unique one over exactly the primary key. -/
def toIndex (c : Constraint) (owner : PlacedTable) (unique : Bool) :
    Except DesignError (Option Fragment) := do
  if c.columns.isEmpty then throw (.unsupportedConstraint owner.name .indexWithoutColumns)
  checkColumns owner c.columns
  if unique && c.columns == owner.key then return none
  let mark := if unique then DerivedName.uniqueMark else DerivedName.indexMark
  return some (.index owner.name
    (c.name.getD (DerivedName.index mark owner.name c.columns)) unique c.columns)

def toForeignKey (c : Constraint) (layout : Layout) (owner : PlacedTable) (references : String)
    (referencedColumns : List String) : Except DesignError (Option Fragment) := do
  if c.columns.isEmpty then throw (.unsupportedConstraint owner.name .foreignKeyWithoutColumns)
  checkColumns owner c.columns
  let referenced ← resolve layout references
  let target := if referencedColumns.isEmpty then referenced.key else referencedColumns
  checkColumns referenced target
  if target.length != c.columns.length then
    throw (.unsupportedConstraint owner.name
      (.arityMismatch c.columns.length referenced.name target.length))
  let name := c.name.getD (DerivedName.foreignKey owner.name referenced.name c.columns)
  return some (.foreignKey owner.name name c.columns referenced.name target)

def toCheck (c : Constraint) (owner : PlacedTable) (expression : String) (tables : List String) :
    Except DesignError (Option Fragment) := do
  if let some other := tables.find? (· != owner.name) then
    throw (.unsupportedConstraint owner.name (.readsOtherTable other))
  if Text.isBlankText expression then throw (.unsupportedConstraint owner.name .emptyExpression)
  checkColumns owner c.columns
  return some (.check owner.name (c.name.getD (DerivedName.check owner.name expression)) expression)

def toFragment (c : Constraint) (layout : Layout) : Except DesignError (Option Fragment) := do
  let owner ← resolve layout c.table
  match c.kind with
  | .unique => toIndex c owner true
  | .index => toIndex c owner false
  | .foreignKey references referencedColumns =>
    toForeignKey c layout owner references referencedColumns
  | .check expression tables => toCheck c owner expression tables

end Constraint

end Interleave
