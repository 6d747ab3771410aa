import Interleave.Catalog
import Interleave.Statement
import Mathlib.Tactic.Common

/-!
# The target database

What stands on the target, and which statements it admits. The rules are strict about case on both
sides: a new name differs from those in use also ignoring case, and a reference repeats the exact
spelling. So what is admitted here is admitted whether or not the target heeds case.

* `Target`: tables and indexes. An index belongs to a table that stands, and a child's parent
  stands.
* `Target.Admits`: a statement is admitted as things stand.
* `Target.after`: the target after an admitted statement.
* `Target.run`: one statement after another, each admitted by what the ones before it left.
* `Target.catalog`: the names of everything that stands.

Foreign keys and checks are not kept: they neither stand in the way of a drop here nor share names
with tables and indexes. Whether index names clash is left to the schema.
-/

namespace Interleave

structure TargetTable where
  name : String
  columns : List String
  parent : Option String := none
deriving DecidableEq

def TargetTable.ofPlaced (p : PlacedTable) : TargetTable :=
  ⟨p.name, p.table.columns.map (·.name), p.table.parent⟩

def TargetTable.ofCounter (c : Counter) : TargetTable :=
  { name := c.table, columns := ["next_val"] }

structure TargetIndex where
  name : String
  table : String
deriving DecidableEq

structure Target where
  /-- In order of creation. -/
  tables : List TargetTable := []
  indexes : List TargetIndex := []
  parents_stand : ∀ t ∈ tables, ∀ parent, t.parent = some parent →
    ∃ p ∈ tables, Text.lowerCase p.name = Text.lowerCase parent := by simp
  owners_stand : ∀ i ∈ indexes, ∃ t ∈ tables,
    Text.lowerCase t.name = Text.lowerCase i.table := by simp
deriving DecidableEq

namespace Target

variable {d d' full : Target} {statements first second : List Statement} {s : Statement}

@[ext]
theorem ext_fields (htables : d.tables = d'.tables) (hindexes : d.indexes = d'.indexes) :
    d = d' := by
  cases d; cases d'
  cases htables; cases hindexes
  rfl

/-- A table of this name stands, ignoring case. -/
def Takes (d : Target) (name : String) : Prop :=
  ∃ t ∈ d.tables, Text.lowerCase t.name = Text.lowerCase name

/-- A table of exactly this name stands and has the columns. -/
def Offers (d : Target) (table : String) (columns : List String) : Prop :=
  ∃ t ∈ d.tables, t.name = table ∧ ∀ column ∈ columns, column ∈ t.columns

/-- No table is interleaved in the table of this name, and no index belongs to it, ignoring case. -/
def Unreferenced (d : Target) (name : String) : Prop :=
  (∀ t ∈ d.tables, ∀ parent ∈ t.parent, Text.lowerCase parent ≠ Text.lowerCase name) ∧
    ∀ i ∈ d.indexes, Text.lowerCase i.table ≠ Text.lowerCase name

instance (d : Target) (name : String) : Decidable (d.Takes name) :=
  inferInstanceAs (Decidable (∃ t ∈ d.tables, _))

instance (d : Target) (table : String) (columns : List String) :
    Decidable (d.Offers table columns) :=
  inferInstanceAs (Decidable (∃ t ∈ d.tables, _))

instance (d : Target) (name : String) : Decidable (d.Unreferenced name) :=
  inferInstanceAs (Decidable (_ ∧ _))

theorem Offers.takes {table : String} {columns : List String} (h : d.Offers table columns) :
    d.Takes table := by
  obtain ⟨t, ht, hname, -⟩ := h
  exact ⟨t, ht, by rw [hname]⟩

def addTable (d : Target) (t : TargetTable)
    (hparent : ∀ parent, t.parent = some parent → d.Takes parent) :
    Target where
  tables := d.tables ++ [t]
  indexes := d.indexes
  parents_stand u hu parent hu' := by
    have hstands : d.Takes parent := by
      rcases List.mem_append.1 hu with hu | hu
      · exact d.parents_stand u hu parent hu'
      · exact hparent parent (List.mem_singleton.1 hu ▸ hu')
    obtain ⟨p, hp, hname⟩ := hstands
    exact ⟨p, List.mem_append_left _ hp, hname⟩
  owners_stand i hi := by
    obtain ⟨t, ht, hname⟩ := d.owners_stand i hi
    exact ⟨t, List.mem_append_left _ ht, hname⟩

def addIndex (d : Target) (i : TargetIndex) (howner : d.Takes i.table) : Target where
  tables := d.tables
  indexes := d.indexes ++ [i]
  parents_stand := d.parents_stand
  owners_stand j hj := by
    rcases List.mem_append.1 hj with hj | hj
    · exact d.owners_stand j hj
    · exact List.mem_singleton.1 hj ▸ howner

def removeIndex (d : Target) (name : String) : Target where
  tables := d.tables
  indexes := d.indexes.filter fun i => Text.lowerCase i.name ≠ Text.lowerCase name
  parents_stand := d.parents_stand
  owners_stand i hi := d.owners_stand i (List.mem_filter.1 hi).1

def removeTable (d : Target) (name : String) (hfree : d.Unreferenced name) : Target where
  tables := d.tables.filter fun t => Text.lowerCase t.name ≠ Text.lowerCase name
  indexes := d.indexes
  parents_stand t ht parent hparent := by
    have ht := (List.mem_filter.1 ht).1
    obtain ⟨p, hp, hname⟩ := d.parents_stand t ht parent hparent
    refine ⟨p, List.mem_filter.2 ⟨hp, ?_⟩, hname⟩
    simpa [hname] using hfree.1 t ht parent hparent
  owners_stand i hi := by
    obtain ⟨t, ht, hname⟩ := d.owners_stand i hi
    refine ⟨t, List.mem_filter.2 ⟨ht, ?_⟩, hname⟩
    simpa [hname] using hfree.2 i hi

/-- The statement is admitted as things stand. A check is a text to the target's rules: only its
table has to stand. -/
def Admits (d : Target) : Statement → Prop
  | .createTable p => ¬ d.Takes p.name ∧ ∀ parent ∈ p.table.parent, d.Offers parent []
  | .createCounter c => ¬ d.Takes c.table
  | .add (.index table _ _ columns) => d.Offers table columns
  | .add (.foreignKey table _ columns references target) =>
    d.Offers table columns ∧ d.Offers references target
  | .add (.check table _ _) => d.Offers table []
  | .seed c => d.Offers c.table ["next_val"]
  | .dropIndex name => ∃ i ∈ d.indexes, i.name = name
  | .dropTable name => d.Offers name [] ∧ d.Unreferenced name

instance (d : Target) : (s : Statement) → Decidable (d.Admits s)
  | .createTable _ | .add (.foreignKey ..) | .dropTable _ => inferInstanceAs (Decidable (_ ∧ _))
  | .createCounter _ => inferInstanceAs (Decidable (¬ _))
  | .add (.index ..) | .add (.check ..) | .seed _ => inferInstanceAs (Decidable (d.Offers _ _))
  | .dropIndex _ => inferInstanceAs (Decidable (∃ i ∈ d.indexes, _))

def after (d : Target) : (s : Statement) → d.Admits s → Target
  | .createTable p, h => d.addTable (.ofPlaced p) fun parent hparent => (h.2 parent hparent).takes
  | .createCounter c, _ => d.addTable (.ofCounter c) (by simp [TargetTable.ofCounter])
  | .add (.index table name _ _), h => d.addIndex ⟨name, table⟩ h.takes
  | .add (.foreignKey ..), _ | .add (.check ..), _ | .seed _, _ => d
  | .dropIndex name, _ => d.removeIndex name
  | .dropTable name, h => d.removeTable name h.2

/-- One statement after another. None if some statement is not admitted when its turn comes. -/
def run (d : Target) : List Statement → Option Target
  | [] => some d
  | s :: rest => if h : d.Admits s then (d.after s h).run rest else none

theorem run_cons (h : d.Admits s) (rest : List Statement) :
    d.run (s :: rest) = (d.after s h).run rest := by
  rw [run, dif_pos h]

/-- A run begins with a statement that is admitted. -/
theorem admits_of_run_cons {rest : List Statement} (h : d.run (s :: rest) = some full) :
    ∃ hadmits : d.Admits s, (d.after s hadmits).run rest = some full := by
  by_cases hadmits : d.Admits s
  · rw [run_cons hadmits] at h
    exact ⟨hadmits, h⟩
  · rw [run, dif_neg hadmits] at h
    exact absurd h (Option.some_ne_none full).symm

theorem run_append (first second : List Statement) :
    d.run (first ++ second) = (d.run first).bind (·.run second) := by
  induction first generalizing d with
  | nil => rfl
  | cons s rest ih =>
    by_cases h : d.Admits s
    · rw [List.cons_append, run_cons h, run_cons h, ih]
    · rw [List.cons_append, run, dif_neg h, run, dif_neg h, Option.bind_none]

theorem run_append_of_eq (hfirst : d.run first = some d') :
    d.run (first ++ second) = d'.run second := by
  rw [run_append, hfirst, Option.bind_some]

/-- One more statement, admitted by what the others left. -/
theorem run_concat (hrun : d.run statements = some d') (h : d'.Admits s) :
    d.run (statements ++ [s]) = some (d'.after s h) := by
  rw [run_append_of_eq hrun]
  exact run_cons h []

def catalog (d : Target) : Catalog :=
  Catalog.ofNames (d.tables.map (·.name)) (d.indexes.map (·.name))

end Target

end Interleave
