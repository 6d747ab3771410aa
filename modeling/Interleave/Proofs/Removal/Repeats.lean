import Interleave.Proofs.Removal

/-!
# What is dropped twice

Whether an object exists is asked of the catalog for every drop anew. The drops that stand before it
in the batch do not count.

* `Statement.droppedIndex?`, `Statement.droppedTable?`: what a statement drops.
* `Target.nodup_of_run_dropIndexes`: no target runs a batch that drops an index twice.
* `Constraint.index?`: the index that a constraint becomes.
* `Schema.drops_once_iff`: **tables and counters are dropped once; indexes are dropped once unless
  two constraints become indexes that share a name**, ignoring case, and the name is in the catalog.
* `Schema.index_dropped_twice`: a batch that runs nowhere for that reason.
-/

namespace Interleave

open Hierarchy

variable {target full : Target} {names : List String} {rest : List Statement} {schema : Schema}
  {d : Design} {existing : Catalog} {action : Action} {script : Script Statement}

namespace Statement

/-- The name of the index that the statement drops. -/
def droppedIndex? : Statement → Option String
  | .dropIndex name => some name
  | _ => none

/-- The name of the table that the statement drops, be it that of a counter. -/
def droppedTable? : Statement → Option String
  | .dropTable name => some name
  | _ => none

theorem filterMap_droppedIndex?_dropIndex (names : List String) :
    (names.map dropIndex).filterMap droppedIndex? = names := by
  rw [List.filterMap_map]
  exact List.filterMap_some

theorem filterMap_droppedIndex?_dropTable (names : List String) :
    (names.map dropTable).filterMap droppedIndex? = [] := by
  rw [List.filterMap_map]
  exact List.filterMap_eq_nil_iff.2 fun _ _ => rfl

theorem filterMap_droppedTable?_dropTable (names : List String) :
    (names.map dropTable).filterMap droppedTable? = names := by
  rw [List.filterMap_map]
  exact List.filterMap_some

theorem filterMap_droppedTable?_dropIndex (names : List String) :
    (names.map dropIndex).filterMap droppedTable? = [] := by
  rw [List.filterMap_map]
  exact List.filterMap_eq_nil_iff.2 fun _ _ => rfl

end Statement

namespace Target

/-- Indexes that are dropped one after another were all there before the first was. -/
theorem exists_index_of_run_dropIndexes
    (h : target.run (names.map .dropIndex ++ rest) = some full) :
    ∀ name ∈ names, ∃ i ∈ target.indexes, i.name = name := by
  induction names generalizing target with
  | nil => exact fun name hname => nomatch hname
  | cons first names ih =>
    obtain ⟨hadmits, hrun⟩ := admits_of_run_cons h
    intro name hname
    rcases List.mem_cons.1 hname with rfl | hname
    · exact hadmits
    · obtain ⟨i, hi, hiname⟩ := ih hrun name hname
      exact ⟨i, (List.mem_filter.1 hi).1, hiname⟩

/-- **No target runs a batch that drops an index twice.** What is left after a drop has another
name. -/
theorem nodup_of_run_dropIndexes (h : target.run (names.map .dropIndex ++ rest) = some full) :
    (names.map Text.lowerCase).Nodup := by
  induction names generalizing target with
  | nil => exact List.nodup_nil
  | cons first names ih =>
    obtain ⟨hadmits, hrun⟩ := admits_of_run_cons h
    refine List.nodup_cons.2 ⟨fun hmem => ?_, ih hrun⟩
    obtain ⟨name, hname, heq⟩ := List.mem_map.1 hmem
    obtain ⟨i, hi, rfl⟩ := exists_index_of_run_dropIndexes hrun name hname
    have hne : Text.lowerCase i.name ≠ Text.lowerCase first :=
      of_decide_eq_true (List.mem_filter.1 hi).2
    exact hne heq

end Target

/-- The name of the index, ignoring case, is not in the catalog or is not that of the other. -/
def TargetIndex.DropApart (existing : Catalog) (i j : TargetIndex) : Prop :=
  existing.containsIndex i.name = true → Text.lowerCase i.name ≠ Text.lowerCase j.name

/-- The catalog heeds no case, so it has both names or neither. -/
theorem TargetIndex.DropApart.symm {i j : TargetIndex} (h : i.DropApart existing j) :
    j.DropApart existing i := by
  intro hj heq
  rw [Catalog.containsIndex, heq] at hj
  exact h hj heq.symm

namespace Constraint

/-- The index that the constraint becomes on the layout, if it becomes one. -/
def index? (c : Constraint) (layout : Layout) : Option TargetIndex :=
  (c.fragment? layout).bind TargetIndex.ofFragment?

/-- The constraints do not become indexes that share a name which is in the catalog. -/
def DropApart (layout : Layout) (existing : Catalog) (b c : Constraint) : Prop :=
  ∀ i ∈ b.index? layout, ∀ j ∈ c.index? layout, i.DropApart existing j

end Constraint

namespace Design

/-- The names of the indexes, tables and counters that are dropped. -/
def droppedIndexes (d : Design) (existing : Catalog) : List String :=
  (d.targetIndexes.filter fun i => existing.containsIndex i.name).map (·.name)

def droppedTables (d : Design) (existing : Catalog) : List String :=
  (d.layout.removalOrder.filter fun p => existing.containsTable p.name).map (·.name) ++
    (d.counters.filter fun c => existing.containsTable c.table).map (·.table)

/-- A drop batch drops indexes first and tables after them. -/
theorem dropStatements_eq_names (d : Design) (existing : Catalog) :
    d.dropStatements existing = (d.droppedIndexes existing).map .dropIndex ++
      (d.droppedTables existing).map .dropTable := by
  rw [dropStatements, dropIndexes_eq, droppedIndexes, droppedTables, List.map_append, List.map_map,
    List.map_map, List.map_map, List.append_assoc]
  rfl

theorem filterMap_droppedIndex? (d : Design) (existing : Catalog) :
    (d.dropStatements existing).filterMap Statement.droppedIndex? = d.droppedIndexes existing := by
  rw [dropStatements_eq_names, List.filterMap_append, Statement.filterMap_droppedIndex?_dropIndex,
    Statement.filterMap_droppedIndex?_dropTable, List.append_nil]

theorem filterMap_droppedTable? (d : Design) (existing : Catalog) :
    (d.dropStatements existing).filterMap Statement.droppedTable? = d.droppedTables existing := by
  rw [dropStatements_eq_names, List.filterMap_append, Statement.filterMap_droppedTable?_dropIndex,
    Statement.filterMap_droppedTable?_dropTable, List.nil_append]

/-- **Tables and counters are dropped once**: they are some of those of the schema, which have
different names. -/
theorem Suits.nodup_droppedTables (h : d.Suits schema) (existing : Catalog) :
    ((d.droppedTables existing).map Text.lowerCase).Nodup := by
  have hsome : (d.droppedTables existing).Sublist
      (d.layout.removalOrder.map (·.name) ++ d.counters.map (·.table)) :=
    (List.filter_sublist.map _).append (List.filter_sublist.map _)
  have hall : (d.layout.removalOrder.map (·.name) ++ d.counters.map (·.table)).Perm d.tableNames :=
    ((List.reverse_perm _).map _).append_right _
  exact ((hall.map _).nodup_iff.2 h.distinct).sublist (hsome.map _)

/-- A design has the indexes that the constraints become. -/
theorem perm_targetIndexes (h : ofSchema schema = .ok d) :
    d.targetIndexes.Perm (schema.constraints.filterMap (·.index? d.layout)) := by
  have hperm := (perm_fragments h).filterMap TargetIndex.ofFragment?
  rwa [List.filterMap_filterMap] at hperm

/-- **Indexes are dropped once unless constraints share the name of one that exists.** -/
theorem nodup_droppedIndexes_iff (h : ofSchema schema = .ok d) :
    ((d.droppedIndexes existing).map Text.lowerCase).Nodup ↔
      schema.constraints.Pairwise (Constraint.DropApart d.layout existing) := by
  -- of the two names in the catalog, one follows from the other where they are equal
  have hboth : ∀ i j : TargetIndex, i.DropApart existing j ↔ (existing.containsIndex i.name = true →
      existing.containsIndex j.name = true → Text.lowerCase i.name ≠ Text.lowerCase j.name) := by
    intro i j
    refine ⟨fun hij hi _ => hij hi, fun hij hi heq => ?_⟩
    have hj : existing.containsIndex j.name = true := by rwa [Catalog.containsIndex, ← heq]
    exact hij hi hj heq
  calc ((d.droppedIndexes existing).map Text.lowerCase).Nodup
    _ ↔ d.targetIndexes.Pairwise (TargetIndex.DropApart existing) := by
        rw [droppedIndexes, List.Nodup, List.pairwise_map, List.pairwise_map, List.pairwise_filter]
        exact List.Pairwise.iff fun i j => (hboth i j).symm
    _ ↔ (schema.constraints.filterMap (·.index? d.layout)).Pairwise
      (TargetIndex.DropApart existing) :=
        (perm_targetIndexes h).pairwise_iff TargetIndex.DropApart.symm
    _ ↔ schema.constraints.Pairwise (Constraint.DropApart d.layout existing) :=
      List.pairwise_filterMap

end Design

namespace Schema

theorem batch?_drop (hdrops : action.drops = true) :
    Script.batch? ⟨d.batches existing action⟩ .drop = some ⟨.drop, d.dropStatements existing⟩ := by
  cases action with
  | drop => rfl
  | replace => rfl
  | create => nomatch hdrops

/-- **When a drop batch drops an object twice.** It never does so with a table or the table of a
counter. With an index it does exactly if constraints become indexes that share a name and the name
is in the catalog. -/
theorem drops_once_iff (h : schema.script existing action = .ok script)
    (hdrops : action.drops = true) :
    ∃ layout drops, Layout.ofTables schema.tables = .ok layout ∧
      script.batch? .drop = some ⟨.drop, drops⟩ ∧
      ((drops.filterMap Statement.droppedTable?).map Text.lowerCase).Nodup ∧
      (((drops.filterMap Statement.droppedIndex?).map Text.lowerCase).Nodup ↔
        schema.constraints.Pairwise (Constraint.DropApart layout existing)) := by
  obtain ⟨d, hd, rfl⟩ := script_eq_ok.1 h
  refine ⟨d.layout, d.dropStatements existing, (Design.ofSchema_eq_ok.1 hd).1,
    batch?_drop hdrops, ?_, ?_⟩
  · rw [Design.filterMap_droppedTable?]
    exact (Design.suits_of_ofSchema hd).nodup_droppedTables existing
  · rw [Design.filterMap_droppedIndex?]
    exact Design.nodup_droppedIndexes_iff hd

end Schema

/-- Of the hotels, one table stands and the index. -/
def hotelCatalog : Catalog :=
  Catalog.ofNames ["Hotel"] ["HotelByName"]

theorem Schema.drops_once_iff_hotels : ∃ script drops,
    hotels.script hotelCatalog .replace = .ok script ∧
    script.batch? .drop = some ⟨.drop, drops⟩ ∧
    ((drops.filterMap Statement.droppedTable?).map Text.lowerCase).Nodup ∧
    ((drops.filterMap Statement.droppedIndex?).map Text.lowerCase).Nodup := by
  obtain ⟨script, h, -⟩ :=
    exists_ok_of_any (x := hotels.script hotelCatalog .replace) (p := fun _ => true)
      (by decide +kernel)
  obtain ⟨layout, drops, -, hbatch, htables, hindexes⟩ := Schema.drops_once_iff h rfl
  have hone : hotels.constraints.Pairwise (Constraint.DropApart layout hotelCatalog) :=
    List.pairwise_singleton _ _
  exact ⟨script, drops, h, hbatch, htables, hindexes.2 hone⟩

/-- The index is asked for twice. -/
def repeatedHotels : Schema :=
  { hotels with constraints := hotels.constraints ++ hotels.constraints }

def repeatedHotelsDesign : Design where
  layout := ⟨[⟨hotels.tables[1], ["HotelId"]⟩, ⟨hotels.tables[0], ["HotelId", "RoomId"]⟩]⟩
  counters := hotels.sequences.map Counter.ofSequence
  fragments := List.replicate 2 (.index "Hotel" "HotelByName" true ["Name"])

theorem ofSchema_repeatedHotels : Design.ofSchema repeatedHotels = .ok repeatedHotelsDesign := by
  have hlayout : Layout.ofTables repeatedHotels.tables =
      .ok repeatedHotelsDesign.layout := by decide +kernel
  have hcounters : Counter.ofSequences repeatedHotelsDesign.layout repeatedHotels.sequences =
      .ok repeatedHotelsDesign.counters := by decide +kernel
  have hsorted : repeatedHotelsDesign.fragments.mergeSort
      (Design.ownerOrder repeatedHotelsDesign.layout) =
      repeatedHotelsDesign.fragments := List.mergeSort_of_pairwise (by decide +kernel)
  refine Design.ofSchema_eq_ok.2 ⟨hlayout, hcounters, repeatedHotelsDesign.fragments.map some, ?_,
    hsorted.symm⟩
  exact .cons rfl (.cons rfl .nil)

/-- **A drop batch can drop an index twice, and then it runs on no target.** -/
theorem Schema.index_dropped_twice : ∃ drops,
    repeatedHotels.script hotelCatalog .drop = .ok ⟨[⟨.drop, drops⟩]⟩ ∧
    drops.filterMap Statement.droppedIndex? = ["HotelByName", "HotelByName"] ∧
    ∀ target : Target, target.run drops = none := by
  have hnames : repeatedHotelsDesign.droppedIndexes hotelCatalog =
      ["HotelByName", "HotelByName"] := by decide +kernel
  refine ⟨_, script_eq_ok.2 ⟨_, ofSchema_repeatedHotels, rfl⟩, ?_, fun target => ?_⟩
  · rw [Design.filterMap_droppedIndex?, hnames]
  · rw [Design.dropStatements_eq_names, hnames]
    refine Option.eq_none_iff_forall_ne_some.2 fun full hrun => ?_
    exact absurd (Target.nodup_of_run_dropIndexes hrun) (by decide +kernel)

end Interleave
