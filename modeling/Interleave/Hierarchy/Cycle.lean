import Interleave.Schema.Table

/-!
# Cycles among parent links

* `walk`: follow parent links from a name, to a root, to a name already cleared, or around a cycle.
* `firstCycle?`: the first cycle that walks from the tables in declaration order run into.
-/

namespace Interleave.Hierarchy

/-- Where a walk along parent links leads. -/
inductive Walk where
  /-- It ends, having passed these tables. -/
  | ends (path : List String)
  /-- It runs into this cycle, which begins and ends with one table. -/
  | cycle (tables : List String)
deriving DecidableEq

/-- The tables not called `name`. -/
def others (name : String) (tables : List Table) : List Table :=
  tables.filter (·.name != name)

theorem length_others_lt {name : String} {tables : List Table} {t : Table}
    (h : tables.find? (·.name == name) = some t) : (others name tables).length < tables.length :=
  List.length_filter_lt_length_iff_exists.2
    ⟨t, List.mem_of_find?_eq_some h, by simpa using List.find?_some h⟩

/-- Walk on from `name` after `path`. The tables not passed yet are `ahead`; each step takes one of
them, so the walk ends. No cycle leads through a cleared name. -/
def walk (cleared : List String) (ahead : List Table) (path : List String) (name : String) : Walk :=
  if name ∈ cleared then .ends path
  else if name ∈ path then .cycle (path.dropWhile (· != name) ++ [name])
  else match _found : ahead.find? (·.name == name) with
    | none => .ends (path ++ [name])
    | some table => match table.parent with
      | none => .ends (path ++ [name])
      | some parent => walk cleared (others name ahead) (path ++ [name]) parent
termination_by ahead.length
decreasing_by exact length_others_lt _found

/-- Walk from each of the second tables in turn; a walk that ends clears the tables it passed. -/
def firstCycleFrom? (tables : List Table) (cleared : List String) :
    List Table → Option (List String)
  | [] => none
  | t :: rest => match walk cleared tables [] t.name with
    | .cycle found => some found
    | .ends path => firstCycleFrom? tables (cleared ++ path) rest

def firstCycle? (tables : List Table) : Option (List String) :=
  firstCycleFrom? tables [] tables

end Interleave.Hierarchy
