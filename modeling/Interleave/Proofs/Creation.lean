import Interleave.Proofs.Design
import Interleave.Proofs.Target
import Interleave.Proofs.Wording

/-!
# Creating a schema

* `Target.FreeOf`: a target that holds none of a schema's tables and counters.
* `run_createTables`, `run_createCounters`, `run_adds`: the parts of a create batch, one after
  another.
* `Design.Suits.run_createStatements`: the whole batch, and what stands after it.
* `create_runs`: **on a free target every statement of a create batch is admitted when its turn
  comes**, and every table and every counter is created once.

The expression of a check is not looked into: it may name what it likes
(`check_of_undeclared_column`).
-/

namespace Interleave

open Hierarchy

/-- The table that the statement creates. -/
def Statement.table? : Statement → Option Table
  | .createTable p => some p.table
  | _ => none

/-- The counter that the statement creates. -/
def Statement.counter? : Statement → Option Counter
  | .createCounter c => some c
  | _ => none

def TargetIndex.ofFragment? : Fragment → Option TargetIndex
  | .index table name _ _ => some ⟨name, table⟩
  | _ => none

/-- None of the schema's tables and counters stands, ignoring case. -/
def Target.FreeOf (target : Target) (schema : Schema) : Prop :=
  (∀ t ∈ schema.tables, ¬ target.Takes t.name) ∧
    ∀ s ∈ schema.sequences, ¬ target.Takes s.backingTable

variable {target target' full : Target} {order : List PlacedTable} {counters : List Counter}
  {fragments : List Fragment} {f : Fragment} {layout : Layout} {name table : String}
  {columns : List String}

namespace Target

theorem not_takes_of_tables {added : List TargetTable}
    (htables : target'.tables = target.tables ++ added) (hnew : ¬ target.Takes name)
    (hadded : ∀ t ∈ added, Text.lowerCase t.name ≠ Text.lowerCase name) :
    ¬ target'.Takes name := by
  rintro ⟨t, ht, hname⟩
  rw [htables, List.mem_append] at ht
  rcases ht with ht | ht
  · exact hnew ⟨t, ht, hname⟩
  · exact hadded t ht hname

theorem run_createTables (hb : Built order) (hnew : ∀ p ∈ order, ¬ target.Takes p.name)
    (hdistinct : (order.map fun p => Text.lowerCase p.name).Nodup) :
    ∃ full, target.run (order.map .createTable) = some full ∧
      full.tables = target.tables ++ order.map .ofPlaced ∧ full.indexes = target.indexes := by
  induction hb with
  | nil => exact ⟨target, rfl, by simp, rfl⟩
  | @snoc order t inherited p _ hstands hplace ih =>
    rw [List.map_append, List.nodup_append] at hdistinct
    obtain ⟨full, hrun, htables, hindexes⟩ :=
      ih (fun q hq => hnew q (List.mem_append_left _ hq)) hdistinct.1
    -- the parent of `p` was placed before it, so it is among what `ih` has created
    have hadmits : full.Admits (.createTable p) := by
      refine ⟨not_takes_of_tables htables (hnew p (by simp)) fun u hu => ?_,
        fun parent hparent => ?_⟩
      · obtain ⟨q, hq, rfl⟩ := List.mem_map.1 hu
        exact hdistinct.2.2 _ (List.mem_map_of_mem hq) _ (by simp)
      · rw [(place_eq_ok.1 hplace).2] at hparent
        obtain ⟨q, hq, hname⟩ := exists_parent_of_stands hstands hparent
        exact ⟨.ofPlaced q, htables ▸ List.mem_append_right _ (List.mem_map_of_mem hq),
          hname, by simp⟩
    refine ⟨full.after _ hadmits, ?_, ?_, hindexes⟩
    · rw [List.map_append]
      exact run_concat hrun hadmits
    · rw [List.map_append, ← List.append_assoc, ← htables]
      rfl

theorem run_createCounters (hnew : ∀ c ∈ counters, ¬ target.Takes c.table)
    (hdistinct : (counters.map fun c => Text.lowerCase c.table).Nodup) :
    ∃ full, target.run (counters.map .createCounter) = some full ∧
      full.tables = target.tables ++ counters.map .ofCounter ∧ full.indexes = target.indexes := by
  induction counters using List.reverseRecOn with
  | nil => exact ⟨target, rfl, by simp, rfl⟩
  | append_singleton counters c ih =>
    rw [List.map_append, List.nodup_append] at hdistinct
    obtain ⟨full, hrun, htables, hindexes⟩ :=
      ih (fun c hc => hnew c (List.mem_append_left _ hc)) hdistinct.1
    have hadmits : full.Admits (.createCounter c) := by
      refine not_takes_of_tables htables (hnew c (by simp)) fun u hu => ?_
      obtain ⟨b, hb, rfl⟩ := List.mem_map.1 hu
      exact hdistinct.2.2 _ (List.mem_map_of_mem hb) _ (by simp)
    refine ⟨full.after _ hadmits, ?_, ?_, hindexes⟩
    · rw [List.map_append]
      exact run_concat hrun hadmits
    · rw [List.map_append, ← List.append_assoc, ← htables]
      rfl

section Objects

variable (hstand : ∀ p ∈ layout.order, TargetTable.ofPlaced p ∈ target.tables)
include hstand

theorem offers_of_layout (h : layout.Offers table columns) : target.Offers table columns := by
  obtain ⟨p, hp, hname, hcolumns⟩ := h
  refine ⟨_, hstand p hp, hname, fun column hcolumn => ?_⟩
  obtain ⟨c, hc, hname⟩ := Table.declares_iff.1 (hcolumns column hcolumn)
  exact List.mem_map.2 ⟨c, hc, hname⟩

theorem admits_add (h : f.Fits layout) : target.Admits (.add f) := by
  cases f with
  | index => exact offers_of_layout hstand h
  | foreignKey => exact ⟨offers_of_layout hstand h.1, offers_of_layout hstand h.2⟩
  | check => exact offers_of_layout hstand h

/-- Objects are added once all tables stand, in any order. -/
theorem run_adds (hfits : ∀ f ∈ fragments, f.Fits layout) :
    ∃ full, target.run (fragments.map .add) = some full ∧
      full.tables = target.tables ∧
      full.indexes = target.indexes ++ fragments.filterMap TargetIndex.ofFragment? := by
  induction fragments generalizing target with
  | nil => exact ⟨target, rfl, rfl, by simp⟩
  | cons f rest ih =>
    have hadmits := admits_add hstand (hfits f List.mem_cons_self)
    have htables : (target.after _ hadmits).tables = target.tables := by cases f <;> rfl
    have hindexes : (target.after _ hadmits).indexes =
        target.indexes ++ (TargetIndex.ofFragment? f).toList := by
      cases f with
      | index => rfl
      | foreignKey | check => exact (List.append_nil _).symm
    obtain ⟨full, hrun, htables', hindexes'⟩ :=
      ih (htables ▸ hstand) fun f hf => hfits f (List.mem_cons_of_mem _ hf)
    refine ⟨full, (run_cons hadmits _).trans hrun, htables'.trans htables, ?_⟩
    rw [hindexes', hindexes, List.append_assoc]
    cases f <;> rfl

end Objects

end Target

variable {schema : Schema} {d : Design} {existing : Catalog} {action : Action}
  {script : Script Statement}

namespace Design

/-- The tables that stand once the design is carried out. -/
def targetTables (d : Design) : List TargetTable :=
  d.layout.order.map .ofPlaced ++ d.counters.map .ofCounter

/-- The indexes that stand once the design is carried out. -/
def targetIndexes (d : Design) : List TargetIndex :=
  d.fragments.filterMap TargetIndex.ofFragment?

theorem ofFragment?_eq_none (h : f.sort ≠ .index) : TargetIndex.ofFragment? f = none := by
  cases f with
  | index => exact absurd rfl h
  | foreignKey | check => rfl

theorem filterMap_objects (d : Design) :
    (d.ofSort .index ++ d.ofSort .foreignKey ++ d.ofSort .check).filterMap TargetIndex.ofFragment? =
      d.targetIndexes := by
  have hnone : ∀ sort ≠ .index, (d.ofSort sort).filterMap TargetIndex.ofFragment? = [] := by
    intro sort hsort
    refine List.filterMap_eq_nil_iff.2 fun f hf => ofFragment?_eq_none ?_
    rwa [show f.sort = sort by simpa using (List.mem_filter.1 hf).2]
  have hall : (d.ofSort .index).filterMap TargetIndex.ofFragment? = d.targetIndexes := by
    rw [ofSort, targetIndexes, List.filterMap_filter]
    exact congrArg (List.filterMap · d.fragments) (funext fun f => by cases f <;> rfl)
  rw [List.filterMap_append, List.filterMap_append, hall, hnone .foreignKey (by decide),
    hnone .check (by decide), List.append_nil, List.append_nil]

theorem Suits.not_takes (h : d.Suits schema) (hfree : target.FreeOf schema)
    (hname : name ∈ d.tableNames) :
    ¬ target.Takes name := by
  rw [tableNames, List.mem_append, List.mem_map, List.mem_map] at hname
  rcases hname with ⟨p, hp, rfl⟩ | ⟨c, hc, rfl⟩
  · exact hfree.1 _ (h.placed.mem_iff.1 (List.mem_map_of_mem hp))
  · obtain ⟨s, hs, hname⟩ := List.mem_map.1 ((h.planned.backing _).1 (List.mem_map_of_mem hc))
    rintro ⟨t, ht, hnamed⟩
    exact hfree.2 s hs ⟨t, ht, hnamed.trans hname.symm⟩

/-- Tables, counters and objects. -/
theorem createStatements_eq (d : Design) : d.createStatements =
    d.layout.order.map .createTable ++ (d.counters.map .createCounter ++
      (d.ofSort .index ++ d.ofSort .foreignKey ++ d.ofSort .check).map .add) := by
  simp only [createStatements, List.map_append, List.append_assoc]

/-- **A create batch runs on a free target**, and adds what the design says. -/
theorem Suits.run_createStatements (h : d.Suits schema) (hfree : target.FreeOf schema) :
    ∃ full, target.run d.createStatements = some full ∧
      full.tables = target.tables ++ d.targetTables ∧
      full.indexes = target.indexes ++ d.targetIndexes := by
  have hdistinct := h.distinct
  rw [tableNames, List.map_append, List.map_map, List.map_map, List.nodup_append] at hdistinct
  obtain ⟨hplaced, hcounted, happart⟩ := hdistinct
  obtain ⟨placed, hrun, htables, hindexes⟩ := Target.run_createTables h.built
    (fun p hp => h.not_takes hfree (name_mem_tableNames hp)) hplaced
  have hnew : ∀ c ∈ d.counters, ¬ placed.Takes c.table := by
    intro c hc
    refine Target.not_takes_of_tables htables (h.not_takes hfree (table_mem_tableNames hc))
      fun t ht => ?_
    obtain ⟨p, hp, rfl⟩ := List.mem_map.1 ht
    exact happart _ (List.mem_map_of_mem hp) _ (List.mem_map_of_mem hc)
  obtain ⟨counted, hrun', htables', hindexes'⟩ := Target.run_createCounters hnew hcounted
  have hstand : ∀ p ∈ d.layout.order, TargetTable.ofPlaced p ∈ counted.tables := by
    intro p hp
    rw [htables', htables]
    exact List.mem_append_left _ (List.mem_append_right _ (List.mem_map_of_mem hp))
  have hfits : ∀ f ∈ d.ofSort .index ++ d.ofSort .foreignKey ++ d.ofSort .check,
      f.Fits d.layout := by
    intro f hf
    refine h.fitting f ?_
    rw [List.mem_append, List.mem_append, ofSort, ofSort, ofSort] at hf
    rcases hf with (hf | hf) | hf <;> exact (List.mem_filter.1 hf).1
  obtain ⟨full, hrun'', htables'', hindexes''⟩ := Target.run_adds hstand hfits
  refine ⟨full, ?_, ?_, ?_⟩
  · rw [createStatements_eq, Target.run_append_of_eq hrun, Target.run_append_of_eq hrun', hrun'']
  · rw [htables'', htables', htables, targetTables, List.append_assoc]
  · rw [hindexes'', hindexes', hindexes, filterMap_objects]

theorem filterMap_table? (d : Design) :
    d.createStatements.filterMap Statement.table? = d.layout.order.map (·.table) := by
  simp [createStatements, List.filterMap_append, List.filterMap_map, Function.comp_def,
    Statement.table?]

theorem filterMap_counter? (d : Design) :
    d.createStatements.filterMap Statement.counter? = d.counters := by
  simp [createStatements, List.filterMap_append, List.filterMap_map, Function.comp_def,
    Statement.counter?]

end Design

namespace Schema

theorem batch?_create (hcreates : action.creates = true) :
    Script.batch? ⟨d.batches existing action⟩ .create = some ⟨.create, d.createStatements⟩ := by
  cases action with
  | create => rfl
  | replace => rfl
  | drop => nomatch hcreates

theorem eq_of_batch?_create {create : Batch Statement}
    (h : Script.batch? ⟨d.batches existing action⟩ .create = some create) :
    create = ⟨.create, d.createStatements⟩ := by
  cases action with
  | create => exact (Option.some.inj h).symm
  | replace => exact (Option.some.inj h).symm
  | drop => nomatch h

/-- **On a target free of the schema, a create batch runs to its end.** On the empty target, what a
statement refers to was made by the statements before it. The batch creates every table of the
schema once, and once a counter of every name that sequences ask for, ignoring case. The columns of
a constraint are columns of the table that it is on. What is sent is what the statements say. -/
theorem create_runs (h : schema.script existing action = .ok script)
    (hcreates : action.creates = true) :
    ∃ statements, script.batch? .create = some ⟨.create, statements⟩ ∧
      (∀ target : Target, target.FreeOf schema → ∃ full, target.run statements = some full) ∧
      (statements.filterMap Statement.table?).Perm schema.tables ∧
      ((statements.filterMap Statement.counter?).map fun c => Text.lowerCase c.table).Perm
        (schema.sequences.map fun s => Text.lowerCase s.backingTable).dedup ∧
      (∀ c ∈ schema.constraints, ∃ t ∈ schema.tables, t.name = c.table ∧
        ∀ column ∈ c.columns, t.declares column = true) ∧
      ∃ sent, schema.scriptText existing action = .ok sent ∧ script.Says sent := by
  have hsent := scriptText_says h
  obtain ⟨d, hd, rfl⟩ := script_eq_ok.1 h
  have hsuits := Design.suits_of_ofSchema hd
  refine ⟨d.createStatements, batch?_create hcreates, fun target hfree => ?_, ?_, ?_,
    fun c hc => ?_, hsent⟩
  · obtain ⟨full, hrun, -⟩ := hsuits.run_createStatements hfree
    exact ⟨full, hrun⟩
  · rw [Design.filterMap_table?]
    exact hsuits.placed
  · rw [Design.filterMap_counter?]
    exact hsuits.planned.perm_dedup
  · obtain ⟨p, hp, hname, hcolumns⟩ := hsuits.listed c hc
    exact ⟨p.table, hsuits.placed.mem_iff.1 (List.mem_map_of_mem hp), hname, hcolumns⟩

end Schema

/-- Rooms are declared before the hotels that they are in. -/
def hotels : Schema where
  tables := [
    { name := "Room"
      columns := [{ name := "HotelId", type := .int64 }, { name := "RoomId", type := .int64 }]
      primaryKey := ["RoomId"]
      parent := some "Hotel" },
    { name := "Hotel"
      columns := [{ name := "HotelId", type := .int64 }, { name := "Name", type := .string }]
      primaryKey := ["HotelId"] }]
  constraints := [(Constraint.unique "Hotel" ["Name"]).named "HotelByName"]
  sequences := [{ name := "hotel_ids" }]

/-- What is sent to create the hotels where nothing stands. -/
def hotelTexts : Script String :=
  ⟨[⟨.drop, []⟩, ⟨.create, [
      "create table Hotel (HotelId INT64 not null,Name STRING(255)) PRIMARY KEY (HotelId)",
      "create table Room (HotelId INT64 not null,RoomId INT64 not null)" ++
        " PRIMARY KEY (HotelId,RoomId), INTERLEAVE IN PARENT Hotel",
      "create table hotel_ids (next_val INT64) PRIMARY KEY ()",
      "create unique index HotelByName on Hotel (Name)"]⟩,
    ⟨.seed, ["INSERT INTO hotel_ids (next_val) VALUES(1)"]⟩]⟩

theorem Schema.create_runs_hotels : ∃ script statements, hotels.script {} .replace = .ok script ∧
    script.batch? .create = some ⟨.create, statements⟩ ∧
    (∃ full, Target.run {} statements = some full) ∧
    (statements.filterMap Statement.table?).Perm hotels.tables ∧ script.Says hotelTexts := by
  obtain ⟨script, h, -⟩ := exists_ok_of_any (x := hotels.script {} .replace) (p := fun _ => true)
    (by decide +kernel)
  obtain ⟨statements, hbatch, hruns, htables, -, -, sent, hsent, hsays⟩ := Schema.create_runs h rfl
  have htexts : hotels.scriptText {} .replace = .ok hotelTexts := by decide +kernel
  obtain rfl : hotelTexts = sent := Except.ok.inj (htexts.symm.trans hsent)
  exact ⟨script, statements, h, hbatch, hruns {} ⟨by simp [Target.Takes], by simp [Target.Takes]⟩,
    htables, hsays⟩

def approval : Table :=
  { name := "Approval", columns := [{ name := "Id", type := .int64 }], primaryKey := ["Id"] }

/-- The check is about a column that is not there. -/
def approvals : Schema where
  tables := [approval]
  constraints := [(Constraint.check "Approval" "Approved").named "ApprovedOnly"]

/-- **The expression of a check may name a column that no table declares.** -/
theorem Schema.check_of_undeclared_column :
    approvals.script {} .create = .ok ⟨[⟨.create,
      [.createTable ⟨approval, ["Id"]⟩, .add (.check "Approval" "ApprovedOnly" "Approved")]⟩]⟩ ∧
    ∀ t ∈ approvals.tables, t.declares "Approved" = false := by
  obtain ⟨script, h, hscript⟩ :=
    exists_ok_of_any (x := approvals.script {} .create) (p := (· = ⟨[⟨.create,
      [.createTable ⟨approval, ["Id"]⟩, .add (.check "Approval" "ApprovedOnly" "Approved")]⟩]⟩))
      (by decide +kernel)
  exact ⟨of_decide_eq_true hscript ▸ h, by decide⟩

end Interleave
