import Interleave.Proofs.Catalog
import Interleave.Proofs.Creation

/-!
# Dropping a schema

* `run_dropIndexes`, `run_dropTables`, `run_dropCounters`: the parts of a drop batch. Tables go in
  reverse, so that none goes before its children.
* `Design.Suits.dropStatements_eq`: nothing is left out of the batch where everything stands.
* `drop_undoes_create`: **on what a create batch left behind, the drop batch runs to its end and
  leaves what was there before.**
-/

namespace Interleave

open Hierarchy

/-- The name of the index that the statement creates. -/
def Statement.indexName? : Statement → Option String
  | .add (.index _ name _ _) => some name
  | _ => none

variable {target full : Target} {order : List PlacedTable} {counters : List Counter}
  {first second : List TargetTable} {kept added : List TargetIndex} {name : String}

/-- Everything of one name, taken out of a list that has it once. -/
theorem filter_ne_middle {α : Type} {f : α → String} {l l' : List α} {a : α}
    (h : ∀ b ∈ l ++ l', f b ≠ f a) : (l ++ a :: l').filter (fun b => f b ≠ f a) = l ++ l' := by
  have hkeep : (l ++ l').filter (fun b => f b ≠ f a) = l ++ l' :=
    List.filter_eq_self.2 fun b hb => decide_eq_true (h b hb)
  rw [List.filter_append, List.filter_cons_of_neg (by simp), ← List.filter_append, hkeep]

/-- The table neither has the name nor is interleaved in a table of it. -/
def TargetTable.Apart (t : TargetTable) (name : String) : Prop :=
  Text.lowerCase t.name ≠ Text.lowerCase name ∧
    ∀ parent ∈ t.parent, Text.lowerCase parent ≠ Text.lowerCase name

namespace Target

/-- What stands has nothing to do with a name that is not taken. -/
theorem apart_of_not_takes {t : TargetTable} (h : ¬ target.Takes name) (ht : t ∈ target.tables) :
    t.Apart name := by
  refine ⟨fun hname => h ⟨t, ht, hname⟩, fun parent hparent hname => h ?_⟩
  obtain ⟨p, hp, hpname⟩ := target.parents_stand t ht parent hparent
  exact ⟨p, hp, hpname.trans hname⟩

theorem owner_ne_of_not_takes {i : TargetIndex} (h : ¬ target.Takes name)
    (hi : i ∈ target.indexes) :
    Text.lowerCase i.table ≠ Text.lowerCase name := by
  intro howner
  obtain ⟨t, ht, htname⟩ := target.owners_stand i hi
  exact h ⟨t, ht, htname.trans howner⟩

theorem containsTable_catalog : target.catalog.containsTable name = true ↔ target.Takes name := by
  rw [catalog, Catalog.containsTable_ofNames]
  simp [Takes]

theorem containsIndex_catalog : target.catalog.containsIndex name = true ↔
    ∃ i ∈ target.indexes, Text.lowerCase i.name = Text.lowerCase name := by
  rw [catalog, Catalog.containsIndex_ofNames]
  simp

theorem run_dropIndexes (hindexes : target.indexes = kept ++ added)
    (hdistinct : (added.map fun i => Text.lowerCase i.name).Nodup)
    (hapart : ∀ i ∈ kept, ∀ j ∈ added, Text.lowerCase i.name ≠ Text.lowerCase j.name) :
    ∃ less : Target, target.run (added.map fun i => .dropIndex i.name) = some less ∧
      less.tables = target.tables ∧ less.indexes = kept := by
  induction added generalizing target with
  | nil => exact ⟨target, rfl, rfl, by rw [hindexes, List.append_nil]⟩
  | cons i added ih =>
    rw [List.map_cons, List.nodup_cons] at hdistinct
    have hadmits : target.Admits (.dropIndex i.name) := ⟨i, by rw [hindexes]; simp, rfl⟩
    have hothers : ∀ j ∈ kept ++ added, Text.lowerCase j.name ≠ Text.lowerCase i.name := by
      intro j hj
      rcases List.mem_append.1 hj with hj | hj
      · exact hapart j hj i List.mem_cons_self
      · exact fun hname => hdistinct.1 (List.mem_map.2 ⟨j, hj, hname⟩)
    have hafter : (target.after _ hadmits).indexes = kept ++ added :=
      (congrArg _ hindexes).trans (filter_ne_middle hothers)
    obtain ⟨less, hrun, htables, hless⟩ :=
      ih hafter hdistinct.2 fun j hj k hk => hapart j hj k (List.mem_cons_of_mem _ hk)
    exact ⟨less, (run_cons hadmits _).trans hrun, htables, hless⟩

/-- One table is dropped from among others. -/
theorem run_dropTable {t : TargetTable} {statements : List Statement}
    (htables : target.tables = first ++ t :: second)
    (hothers : ∀ u ∈ first ++ second, u.Apart t.name)
    (hself : ∀ parent ∈ t.parent, Text.lowerCase parent ≠ Text.lowerCase t.name)
    (hindexes : ∀ i ∈ target.indexes, Text.lowerCase i.table ≠ Text.lowerCase t.name) :
    ∃ less : Target, target.run (.dropTable t.name :: statements) = less.run statements ∧
      less.tables = first ++ second ∧ less.indexes = target.indexes := by
  have hfree : ∀ u ∈ target.tables, ∀ parent ∈ u.parent,
      Text.lowerCase parent ≠ Text.lowerCase t.name := by
    intro u hu
    rw [htables, List.perm_middle.mem_iff, List.mem_cons] at hu
    rcases hu with rfl | hu
    · exact hself
    · exact (hothers u hu).2
  have hadmits : target.Admits (.dropTable t.name) :=
    ⟨⟨t, by rw [htables]; simp, rfl, by simp⟩, hfree, hindexes⟩
  exact ⟨_, run_cons hadmits _,
    (congrArg _ htables).trans (filter_ne_middle fun u hu => (hothers u hu).1), rfl⟩

/-- Tables are dropped in the reverse order of a layout. -/
theorem run_dropTables (hb : Built order)
    (htables : target.tables = first ++ order.map .ofPlaced ++ second)
    (hdistinct : (order.map fun p => Text.lowerCase p.name).Nodup)
    (hothers : ∀ u ∈ first ++ second, ∀ p ∈ order, u.Apart p.name)
    (hindexes : ∀ i ∈ target.indexes, ∀ p ∈ order, Text.lowerCase i.table ≠ Text.lowerCase p.name) :
    ∃ less : Target, target.run (order.reverse.map fun p => .dropTable p.name) = some less ∧
      less.tables = first ++ second ∧ less.indexes = target.indexes := by
  induction hb generalizing target with
  | nil => exact ⟨target, rfl, by simpa using htables, rfl⟩
  | @snoc order t inherited p hb hstands hplace ih =>
    rw [List.map_append, List.nodup_append] at hdistinct
    -- parents come before `p`, so nothing is interleaved in it any more
    have hbefore : ∀ q ∈ order, Text.lowerCase q.name ≠ Text.lowerCase p.name := fun q hq =>
      hdistinct.2.2 _ (List.mem_map_of_mem hq) _ (by simp)
    have hchild : ∀ q ∈ order, (TargetTable.ofPlaced q).Apart p.name := by
      refine fun q hq => ⟨hbefore q hq, fun parent hparent => ?_⟩
      obtain ⟨r, hr, rfl⟩ := hb.exists_parent hq hparent
      exact hbefore r hr
    have hself : ∀ parent ∈ p.table.parent, Text.lowerCase parent ≠ Text.lowerCase p.name := by
      intro parent hparent
      rw [(place_eq_ok.1 hplace).2] at hparent
      obtain ⟨r, hr, rfl⟩ := exists_parent_of_stands hstands hparent
      exact hbefore r hr
    have hmiddle : target.tables = (first ++ order.map .ofPlaced) ++ .ofPlaced p :: second := by
      rw [htables, List.map_append]
      simp
    have hothers' : ∀ u ∈ (first ++ order.map .ofPlaced) ++ second, u.Apart p.name := by
      intro u hu
      rw [List.mem_append, List.mem_append, or_right_comm, ← List.mem_append] at hu
      rcases hu with hu | hu
      · exact hothers u hu p (by simp)
      · obtain ⟨q, hq, rfl⟩ := List.mem_map.1 hu
        exact hchild q hq
    obtain ⟨less, hrun, hless, hsame⟩ :=
      run_dropTable hmiddle hothers' hself fun i hi => hindexes i hi p (by simp)
    obtain ⟨final, hrun', hfinal, hsame'⟩ := ih hless hdistinct.1
      (fun u hu q hq => hothers u hu q (List.mem_append_left _ hq))
      (fun i hi q hq => hindexes i (hsame ▸ hi) q (List.mem_append_left _ hq))
    refine ⟨final, ?_, hfinal, hsame'.trans hsame⟩
    rw [List.reverse_append, List.reverse_singleton, List.singleton_append, List.map_cons]
    exact hrun.trans hrun'

theorem run_dropCounters (htables : target.tables = first ++ counters.map .ofCounter)
    (hdistinct : (counters.map fun c => Text.lowerCase c.table).Nodup)
    (hothers : ∀ u ∈ first, ∀ c ∈ counters, u.Apart c.table)
    (hindexes : ∀ i ∈ target.indexes, ∀ c ∈ counters,
      Text.lowerCase i.table ≠ Text.lowerCase c.table) :
    ∃ less : Target, target.run (counters.map fun c => .dropTable c.table) = some less ∧
      less.tables = first ∧ less.indexes = target.indexes := by
  induction counters generalizing target with
  | nil => exact ⟨target, rfl, by simpa using htables, rfl⟩
  | cons c rest ih =>
    rw [List.map_cons, List.nodup_cons] at hdistinct
    have hothers' : ∀ u ∈ first ++ rest.map .ofCounter, u.Apart c.table := by
      intro u hu
      rcases List.mem_append.1 hu with hu | hu
      · exact hothers u hu c List.mem_cons_self
      · obtain ⟨b, hb, rfl⟩ := List.mem_map.1 hu
        exact ⟨fun hname => hdistinct.1 (List.mem_map.2 ⟨b, hb, hname⟩),
          by simp [TargetTable.ofCounter]⟩
    obtain ⟨less, hrun, hless, hsame⟩ :=
      run_dropTable htables hothers' (by simp [TargetTable.ofCounter])
        fun i hi => hindexes i hi c List.mem_cons_self
    obtain ⟨final, hrun', hfinal, hsame'⟩ := ih hless hdistinct.2
      (fun u hu b hb => hothers u hu b (List.mem_cons_of_mem _ hb))
      (fun i hi b hb => hindexes i (hsame ▸ hi) b (List.mem_cons_of_mem _ hb))
    exact ⟨final, hrun.trans hrun', hfinal, hsame'.trans hsame⟩

end Target

variable {schema : Schema} {d : Design} {existing : Catalog} {action : Action}
  {script : Script Statement} {create : Batch Statement}

namespace Design

theorem map_name_targetTables (d : Design) : d.targetTables.map (·.name) = d.tableNames := by
  rw [targetTables, tableNames, List.map_append, List.map_map, List.map_map]
  rfl

/-- Of the indexes, those that exist are dropped. -/
theorem dropIndexes_eq (d : Design) (existing : Catalog) :
    (d.fragments.filter fun f => existing.containsIndex f.name).filterMap Fragment.drop? =
      (d.targetIndexes.filter fun i => existing.containsIndex i.name).map fun i =>
        .dropIndex i.name := by
  rw [List.filterMap_filter, targetIndexes, List.filter_filterMap, List.map_filterMap]
  refine List.filterMap_congr fun f _ => ?_
  cases f with
  | index table name =>
    rw [TargetIndex.ofFragment?, Option.filter_some, Fragment.name]
    split <;> rfl
  | foreignKey | check => split <;> rfl

/-- Where everything stands, nothing is left out. -/
theorem dropStatements_eq (hindexes : ∀ i ∈ d.targetIndexes, existing.containsIndex i.name = true)
    (htables : ∀ name ∈ d.tableNames, existing.containsTable name = true) :
    d.dropStatements existing = d.targetIndexes.map (fun i => .dropIndex i.name) ++
      (d.layout.order.reverse.map (fun p => .dropTable p.name) ++
        d.counters.map fun c => .dropTable c.table) := by
  have hindexed : (d.targetIndexes.filter fun i => existing.containsIndex i.name) =
      d.targetIndexes :=
    List.filter_eq_self.2 hindexes
  have hplaced : (d.layout.removalOrder.filter fun p => existing.containsTable p.name) =
      d.layout.order.reverse :=
    List.filter_eq_self.2 fun p hp =>
      htables _ (List.mem_append_left _ (List.mem_map_of_mem (List.mem_reverse.1 hp)))
  have hcounted : (d.counters.filter fun c => existing.containsTable c.table) = d.counters :=
    List.filter_eq_self.2 fun c hc => htables _ (List.mem_append_right _ (List.mem_map_of_mem hc))
  rw [dropStatements, dropIndexes_eq, hindexed, hplaced, hcounted, List.append_assoc]

theorem filterMap_indexName? (d : Design) :
    d.createStatements.filterMap Statement.indexName? = d.targetIndexes.map (·.name) := by
  have hadd : Statement.indexName? ∘ Statement.add = fun f =>
      (TargetIndex.ofFragment? f).map (·.name) := by
    funext f
    cases f <;> rfl
  rw [createStatements_eq, List.filterMap_append, List.filterMap_append, List.filterMap_map,
    List.filterMap_map, List.filterMap_map, hadd, ← List.map_filterMap, filterMap_objects]
  simp [Function.comp_def, Statement.indexName?]

/-- **A drop batch runs where the schema was created**, and leaves the rest. -/
theorem Suits.run_dropStatements (h : d.Suits schema) (hfree : target.FreeOf schema)
    (htables : full.tables = target.tables ++ d.targetTables)
    (hindexes : full.indexes = target.indexes ++ d.targetIndexes)
    (hdistinct : (d.targetIndexes.map fun i => Text.lowerCase i.name).Nodup)
    (hapart : ∀ i ∈ target.indexes, ∀ j ∈ d.targetIndexes,
      Text.lowerCase i.name ≠ Text.lowerCase j.name) :
    full.run (d.dropStatements full.catalog) = some target := by
  have hnames := h.distinct
  rw [tableNames, List.map_append, List.map_map, List.map_map, List.nodup_append] at hnames
  obtain ⟨hplaced, hcounted, hseparate⟩ := hnames
  have hindexed : ∀ i ∈ d.targetIndexes, full.catalog.containsIndex i.name = true := fun i hi =>
    Target.containsIndex_catalog.2 ⟨i, hindexes ▸ List.mem_append_right _ hi, rfl⟩
  have htabled : ∀ name ∈ d.tableNames, full.catalog.containsTable name = true := by
    intro name hname
    rw [← map_name_targetTables] at hname
    obtain ⟨t, ht, rfl⟩ := List.mem_map.1 hname
    exact Target.containsTable_catalog.2 ⟨t, htables ▸ List.mem_append_right _ ht, rfl⟩
  have hnew : ∀ name ∈ d.tableNames, ¬ target.Takes name :=
    fun name hname => h.not_takes hfree hname
  have hothers : ∀ u ∈ target.tables ++ d.counters.map .ofCounter, ∀ p ∈ d.layout.order,
      u.Apart p.name := by
    intro u hu p hp
    rcases List.mem_append.1 hu with hu | hu
    · exact Target.apart_of_not_takes (hnew _ (name_mem_tableNames hp)) hu
    · obtain ⟨c, hc, rfl⟩ := List.mem_map.1 hu
      have hne := hseparate _ (List.mem_map_of_mem hp) _ (List.mem_map_of_mem hc)
      exact ⟨hne.symm, by simp [TargetTable.ofCounter]⟩
  -- indexes, tables, counters: each part takes away what stands in the way of the next
  obtain ⟨bare, hrun, hbare, hbareIndexes⟩ := Target.run_dropIndexes hindexes hdistinct hapart
  rw [htables, targetTables, ← List.append_assoc] at hbare
  obtain ⟨rooted, hrun', hrooted, hrootedIndexes⟩ :=
    Target.run_dropTables h.built hbare hplaced hothers fun i hi p hp =>
      Target.owner_ne_of_not_takes (hnew _ (name_mem_tableNames hp)) (hbareIndexes ▸ hi)
  rw [hbareIndexes] at hrootedIndexes
  obtain ⟨final, hrun'', hfinal, hfinalIndexes⟩ := Target.run_dropCounters hrooted hcounted
    (fun u hu c hc => Target.apart_of_not_takes (hnew _ (table_mem_tableNames hc)) hu)
    (fun i hi c hc =>
      Target.owner_ne_of_not_takes (hnew _ (table_mem_tableNames hc)) (hrootedIndexes ▸ hi))
  rw [dropStatements_eq hindexed htabled, Target.run_append_of_eq hrun,
    Target.run_append_of_eq hrun', hrun'']
  exact congrArg some (Target.ext_fields hfinal (hfinalIndexes.trans hrootedIndexes))

end Design

namespace Schema

/-- **Drop undoes create.** Let a create batch run on any target that has nothing to do with the
schema, and let the drop batch be that for what then exists. It runs to its end, and the target is
what it was. Both batches are sent as their statements say. -/
theorem drop_undoes_create (h : schema.script existing action = .ok script)
    (hcreate : script.batch? .create = some create)
    (hdistinct : ((create.statements.filterMap Statement.indexName?).map Text.lowerCase).Nodup)
    (hfree : target.FreeOf schema)
    (hapart : ∀ i ∈ target.indexes, ∀ name ∈ create.statements.filterMap Statement.indexName?,
      Text.lowerCase i.name ≠ Text.lowerCase name) :
    ∃ full drops, target.run create.statements = some full ∧
      schema.script full.catalog .drop = .ok ⟨[⟨.drop, drops⟩]⟩ ∧ full.run drops = some target ∧
      (∃ sent, schema.scriptText existing action = .ok sent ∧ script.Says sent) ∧
      ∃ sent, schema.scriptText full.catalog .drop = .ok sent ∧
      Script.Says ⟨[⟨.drop, drops⟩]⟩ sent := by
  have hcreated := scriptText_says h
  obtain ⟨d, hd, rfl⟩ := script_eq_ok.1 h
  have hsuits := Design.suits_of_ofSchema hd
  obtain rfl : create = ⟨.create, d.createStatements⟩ := eq_of_batch?_create hcreate
  rw [Design.filterMap_indexName?] at hdistinct hapart
  rw [List.map_map] at hdistinct
  obtain ⟨full, hrun, htables, hindexes⟩ := hsuits.run_createStatements hfree
  have hdrops : schema.script full.catalog .drop = .ok ⟨[⟨.drop, d.dropStatements full.catalog⟩]⟩ :=
    script_eq_ok.2 ⟨d, hd, rfl⟩
  refine ⟨full, d.dropStatements full.catalog, hrun, hdrops, ?_, hcreated, scriptText_says hdrops⟩
  exact hsuits.run_dropStatements hfree htables hindexes hdistinct fun i hi j hj =>
    hapart i hi j.name (List.mem_map_of_mem hj)

end Schema

/-- Neither the tables nor the index of hotels. -/
def guests : Target where
  tables := [⟨"Guest", ["GuestId"], none⟩, ⟨"Stay", ["GuestId", "Night"], some "Guest"⟩]
  indexes := [⟨"GuestByName", "Guest"⟩]
  parents_stand := by simp
  owners_stand := by simp

/-- What is sent to drop the hotels once they stand, whatever stands beside them. -/
def hotelDropTexts : Script String :=
  ⟨[⟨.drop,
    ["drop index HotelByName", "drop table Room", "drop table Hotel", "drop table hotel_ids"]⟩]⟩

theorem Schema.drop_undoes_create_hotels : ∃ script create full drops,
    hotels.script {} .create = .ok script ∧
    script.batch? .create = some create ∧ guests.run create.statements = some full ∧
    hotels.script full.catalog .drop = .ok ⟨[⟨.drop, drops⟩]⟩ ∧ full.run drops = some guests ∧
    Script.Says ⟨[⟨.drop, drops⟩]⟩ hotelDropTexts := by
  obtain ⟨script, h, hbatch⟩ := exists_ok_of_any (x := hotels.script {} .create) (p := fun script =>
    (script.batch? .create).any fun create =>
      create.statements.filterMap Statement.indexName? = ["HotelByName"] ∧
        (guests.run create.statements).any fun full =>
          hotels.scriptText full.catalog .drop = .ok hotelDropTexts) (by decide +kernel)
  obtain ⟨create, hcreate, hrest⟩ := (Option.any_eq_true _ _).1 hbatch
  obtain ⟨hnames, htexts⟩ := of_decide_eq_true hrest
  have hfree : guests.FreeOf hotels := ⟨by decide +kernel, by decide +kernel⟩
  obtain ⟨full, drops, hrun, hscript, hdrop, -, sent, hsent, hsays⟩ :=
    Schema.drop_undoes_create h hcreate (by rw [hnames]; decide +kernel) hfree
      (by rw [hnames]; decide +kernel)
  rw [hrun, Option.any_some] at htexts
  obtain rfl : hotelDropTexts = sent := Except.ok.inj ((of_decide_eq_true htexts).symm.trans hsent)
  exact ⟨script, create, full, drops, h, hcreate, hrun, hscript, hdrop, hsays⟩

end Interleave
