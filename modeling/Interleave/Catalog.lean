import Interleave.Text.LowerCase

/-!
# What a database holds

* `NameSet`: a finite set of names, in ascending order.
* `Catalog`: the tables and indexes that exist. Names go in and are looked up in lower case.
-/

namespace Interleave

/-- Names without repetition, in the order of their code points. -/
structure NameSet where
  names : List String
  ascending : names.Pairwise (· < ·)
deriving DecidableEq

namespace NameSet

def empty : NameSet :=
  ⟨[], List.Pairwise.nil⟩

/-- The ascending list with `name` in its place, which is unchanged if it was there already. -/
def insertSorted (name : String) : List String → List String
  | [] => [name]
  | head :: rest =>
    if name < head then name :: head :: rest
    else if name = head then head :: rest
    else head :: insertSorted name rest

theorem mem_insertSorted {name x : String} {names : List String} :
    x ∈ insertSorted name names ↔ x = name ∨ x ∈ names := by
  fun_induction insertSorted name names with
  | case1 => simp
  | case2 => simp
  | case3 => simp
  | case4 head rest _ _ ih => simp [ih, or_left_comm]

theorem pairwise_insertSorted {name : String} {names : List String} (h : names.Pairwise (· < ·)) :
    (insertSorted name names).Pairwise (· < ·) := by
  fun_induction insertSorted name names with
  | case1 => simp
  | case2 head rest lt =>
    refine List.pairwise_cons.2 ⟨fun x hx => ?_, h⟩
    rcases List.mem_cons.1 hx with rfl | hx
    · exact lt
    · exact String.lt_trans lt ((List.pairwise_cons.1 h).1 x hx)
  | case3 => exact h
  | case4 head rest not_lt ne ih =>
    obtain ⟨below, rest_ascends⟩ := List.pairwise_cons.1 h
    refine List.pairwise_cons.2 ⟨fun x hx => ?_, ih rest_ascends⟩
    rcases mem_insertSorted.1 hx with rfl | hx
    · exact Std.lt_of_le_of_ne (String.not_lt.1 not_lt) (Ne.symm ne)
    · exact below x hx

def insert (s : NameSet) (name : String) : NameSet :=
  ⟨insertSorted name s.names, pairwise_insertSorted s.ascending⟩

def ofList (names : List String) : NameSet :=
  names.foldl insert empty

def contains (s : NameSet) (name : String) : Bool :=
  s.names.contains name

end NameSet

structure Catalog where
  tables : NameSet := .empty
  indexes : NameSet := .empty
deriving DecidableEq

namespace Catalog

def insertTable (c : Catalog) (name : String) : Catalog :=
  { c with tables := c.tables.insert (Text.lowerCase name) }

def insertIndex (c : Catalog) (name : String) : Catalog :=
  { c with indexes := c.indexes.insert (Text.lowerCase name) }

def containsTable (c : Catalog) (name : String) : Bool :=
  c.tables.contains (Text.lowerCase name)

def containsIndex (c : Catalog) (name : String) : Bool :=
  c.indexes.contains (Text.lowerCase name)

def isEmpty (c : Catalog) : Bool :=
  c.tables.names.isEmpty && c.indexes.names.isEmpty

/-- The catalog of a database that holds these tables and indexes. -/
def ofNames (tables indexes : List String) : Catalog :=
  indexes.foldl insertIndex (tables.foldl insertTable {})

end Catalog

end Interleave
