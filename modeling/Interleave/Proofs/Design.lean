import Interleave.Design
import Interleave.Proofs.Counter
import Interleave.Proofs.Draft
import Interleave.Proofs.Fragment
import Interleave.Proofs.Hierarchy.Acceptance

/-!
# Designs

* `Design.Suits`: what a design has to do with its schema.
* `Design.perm_fragments`: a design has the objects that the constraints of its schema become.
* `Design.suits_of_ofSchema`: **the design of a schema suits it.**
* `Design.batches`, `Design.script_eq`: the batches of a design's script. There is no design without
  a script.
* `Schema.script_eq_ok`: the two together.
-/

namespace Interleave

open Hierarchy

variable {schema : Schema} {d : Design} {existing : Catalog} {action : Action}
  {script : Script Statement}

namespace Design

/-- The names of all tables and counters. -/
def tableNames (d : Design) : List String :=
  d.layout.order.map (·.name) ++ d.counters.map (·.table)

theorem name_mem_tableNames {p : PlacedTable} (hp : p ∈ d.layout.order) : p.name ∈ d.tableNames :=
  List.mem_append_left _ (List.mem_map_of_mem hp)

theorem table_mem_tableNames {c : Counter} (hc : c ∈ d.counters) : c.table ∈ d.tableNames :=
  List.mem_append_right _ (List.mem_map_of_mem hc)

structure Suits (d : Design) (schema : Schema) : Prop where
  built : Built d.layout.order
  /-- Every table of the schema is placed, once. -/
  placed : (d.layout.order.map (·.table)).Perm schema.tables
  planned : Counter.Planned d.layout schema.sequences d.counters
  /-- Tables and counters share no name, ignoring case. -/
  distinct : (d.tableNames.map Text.lowerCase).Nodup
  fitting : ∀ f ∈ d.fragments, f.Fits d.layout
  /-- The columns of a constraint are columns of its table. -/
  listed : ∀ c ∈ schema.constraints, d.layout.Offers c.table c.columns

theorem ofSchema_eq_ok : ofSchema schema = .ok d ↔ Layout.ofTables schema.tables = .ok d.layout ∧
    Counter.ofSequences d.layout schema.sequences = .ok d.counters ∧
    ∃ fragments,
      List.Forall₂ (fun c f? => Constraint.toFragment c d.layout = .ok f?) schema.constraints
        fragments ∧
      d.fragments = (fragments.filterMap id).mergeSort (ownerOrder d.layout) := by
  unfold ofSchema
  simp only [bind_eq_ok, mapM_eq_ok]
  constructor
  · rintro ⟨layout, hlayout, counters, hcounters, fragments, hfragments, h⟩
    obtain rfl := Except.ok.inj h
    exact ⟨hlayout, hcounters, fragments, hfragments, rfl⟩
  · rintro ⟨hlayout, hcounters, fragments, hfragments, h⟩
    refine ⟨_, hlayout, _, hcounters, fragments, hfragments, ?_⟩
    rw [← h]
    rfl

/-- **A design has the objects that the constraints become**, each as often as constraints become
it. -/
theorem perm_fragments (h : ofSchema schema = .ok d) :
    d.fragments.Perm (schema.constraints.filterMap (·.fragment? d.layout)) := by
  obtain ⟨-, -, fragments, hfragments, hsorted⟩ := ofSchema_eq_ok.1 h
  rw [hsorted, ← Constraint.filterMap_fragment? hfragments]
  exact List.mergeSort_perm _ _

theorem mem_fragments (h : ofSchema schema = .ok d) {f : Fragment} :
    f ∈ d.fragments ↔ ∃ c ∈ schema.constraints, c.toFragment d.layout = .ok (some f) := by
  rw [(perm_fragments h).mem_iff, List.mem_filterMap]
  simp only [Constraint.fragment?_eq_some]

theorem nodup_tableNames (hlayout : Layout.ofTables schema.tables = .ok d.layout)
    (hplanned : Counter.Planned d.layout schema.sequences d.counters) :
    (d.tableNames.map Text.lowerCase).Nodup := by
  have hperm : (d.layout.order.map fun p => Text.lowerCase p.name).Perm
      (schema.tables.map fun t => Text.lowerCase t.name) := by
    have h := (built_of_ofTables hlayout).2.map fun t => Text.lowerCase t.name
    rwa [List.map_map] at h
  rw [tableNames, List.map_append, List.map_map, List.map_map, List.nodup_append]
  refine ⟨hperm.nodup_iff.2 (sound_of_ofTables hlayout).distinct, hplanned.distinct, ?_⟩
  intro name hname other hother heq
  obtain ⟨p, hp, rfl⟩ := List.mem_map.1 hname
  obtain ⟨c, hc, rfl⟩ := List.mem_map.1 hother
  have hdeclares : d.layout.declares c.table = true := Layout.declares_iff.2 ⟨p, hp, heq⟩
  rw [hplanned.apart c hc] at hdeclares
  exact Bool.false_ne_true hdeclares

/-- **The design of a schema suits it.** -/
theorem suits_of_ofSchema (h : ofSchema schema = .ok d) : d.Suits schema := by
  obtain ⟨hlayout, hcounters, fragments, hfragments, -⟩ := ofSchema_eq_ok.1 h
  obtain ⟨hbuilt, hperm⟩ := built_of_ofTables hlayout
  have hplanned := Counter.planned_of_ofSequences hcounters
  refine ⟨hbuilt, hperm, hplanned, nodup_tableNames hlayout hplanned, fun f hf => ?_,
    fun c hc => ?_⟩
  · obtain ⟨c, -, hc⟩ := (mem_fragments h).1 hf
    exact (Constraint.toFragment_ok hc).2 f rfl
  · obtain ⟨f?, -, hc⟩ := exists_of_forall₂ hfragments c hc
    exact (Constraint.toFragment_ok hc).1

/-- The batches of an action. -/
def batches (d : Design) (existing : Catalog) (action : Action) : List (Batch Statement) :=
  (if action.drops then [⟨.drop, d.dropStatements existing⟩] else []) ++
    (if action.creates then [⟨.create, d.createStatements⟩] else []) ++
    (if action.creates && !d.counters.isEmpty then [⟨.seed, d.seedStatements⟩] else [])

theorem script_eq (d : Design) : d.script existing action = .ok ⟨d.batches existing action⟩ := by
  have hadd : ∀ (draft : Draft Statement) phase statements, (draft.stage.open? phase).isSome →
      draft.addBatch phase statements =
        .ok ⟨.closed phase, draft.closed ++ [⟨phase, statements⟩], none⟩ :=
    fun _ _ _ h => Draft.addBatch_eq_ok.2 ⟨h, rfl⟩
  unfold script batches
  -- whatever the action, no batch is opened at a stage that does not allow it
  cases action with
  | drop => exact bind_eq_ok.2 ⟨_, hadd {} .drop _ rfl, rfl⟩
  | create =>
    refine bind_eq_ok.2 ⟨_, rfl, bind_eq_ok.2 ⟨_, hadd {} .create _ rfl, ?_⟩⟩
    cases d.counters.isEmpty with
    | true => rfl
    | false => exact bind_eq_ok.2 ⟨_, hadd _ .seed _ rfl, rfl⟩
  | replace =>
    refine bind_eq_ok.2 ⟨_, hadd {} .drop _ rfl, bind_eq_ok.2 ⟨_, hadd _ .create _ rfl, ?_⟩⟩
    cases d.counters.isEmpty with
    | true => rfl
    | false => exact bind_eq_ok.2 ⟨_, hadd _ .seed _ rfl, rfl⟩

end Design

namespace Schema

theorem script_eq_ok : schema.script existing action = .ok script ↔
    ∃ d, Design.ofSchema schema = .ok d ∧ script = ⟨d.batches existing action⟩ := by
  unfold Schema.script
  simp only [bind_eq_ok, Design.script_eq, Except.ok.injEq, @eq_comm _ script]

end Schema

end Interleave
