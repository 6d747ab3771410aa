import Interleave.Proofs.Design

/-!
# What is wrong with a schema

A script is refused for what is wrong with the schema, whatever is to be done and whatever exists.
Once the schema has a design, no batch of it is ever opened out of order.

* `DesignError.IsFault`: the error is about a schema, not about the order of calls or about a
  statement sent.
* `Schema.FirstFault`: what a schema is refused for: its tables come first, then its sequences, and
  then its constraints in the order in which they are declared.
* `Design.ofSchema_eq_error`: there is no design exactly if there is such a fault.
* `Schema.fault_or_scripts`: **a schema has a first fault, which is what every action is refused
  for, or it has a script for every action.** Replacing is dropping and then creating, and what is
  created does not depend on what exists.
-/

namespace Interleave

open Hierarchy

/-- The error is a fault of a schema. A draft or a connection has no part in it. -/
def DesignError.IsFault : DesignError → Prop
  | .invalidTransition _ _ | .refusedStatement _ _ => False
  | _ => True

/-- The error is the first fault of the schema. -/
inductive Schema.FirstFault (schema : Schema) : DesignError → Prop
  | tables {e : DesignError} (h : Layout.ofTables schema.tables = .error e) : FirstFault schema e
  | sequences {e : DesignError} {layout : Layout}
    (hlayout : Layout.ofTables schema.tables = .ok layout)
    (h : Counter.ofSequences layout schema.sequences = .error e) : FirstFault schema e
  | constraint {e : DesignError} {layout : Layout} {counters : List Counter}
    {before after : List Constraint} {c : Constraint}
    (hlayout : Layout.ofTables schema.tables = .ok layout)
    (hcounters : Counter.ofSequences layout schema.sequences = .ok counters)
    (hdeclared : schema.constraints = before ++ c :: after)
    (hbefore : ∀ b ∈ before, ∃ f?, b.toFragment layout = .ok f?)
    (h : c.toFragment layout = .error e) :
    FirstFault schema e

variable {tables waiting : List Table} {placed layout : Layout} {p : PlacedTable} {schema : Schema}
  {d : Design} {existing : Catalog} {action : Action} {e : DesignError}

/-! ## Only faults are found -/

section Faults

open FailsOnly DesignError

namespace Hierarchy

theorem checkNames_fails (seen : List String) (tables : List Table) :
    FailsOnly IsFault (checkNames seen tables) := by
  induction tables generalizing seen with
  | nil => exact ok ()
  | cons t rest ih =>
    rw [checkNames]
    split
    · exact error trivial
    · exact ih _

theorem checkTable_fails (tables : List Table) (t : Table) :
    FailsOnly IsFault (checkTable tables t) := by
  unfold checkTable
  split
  · exact error trivial
  split
  · exact error trivial
  split
  · exact ok ()
  split
  · exact ok ()
  · exact error trivial

theorem place_fails (inherited : List String) (t : Table) :
    FailsOnly IsFault (place inherited t) := by
  unfold place
  split
  · exact error trivial
  · exact ok _

theorem pass_fails (placed : Layout) (waiting : List Table) :
    FailsOnly IsFault (pass placed waiting) := by
  induction waiting generalizing placed with
  | nil => exact ok _
  | cons t rest ih =>
    rw [pass]
    split
    · exact bind (ih placed) fun _ => ok _
    · exact bind (place_fails _ t) fun p => ih _

theorem passes_fails (placed : Layout) (waiting : List Table) :
    FailsOnly IsFault (passes placed waiting) := by
  fun_induction passes placed waiting with
  | case1 => exact ok _
  | case2 placed waiting _ e hpass => exact error (pass_fails placed waiting e hpass)
  | case3 placed waiting _ placed' rest _ _ ih => exact ih
  | case4 => exact error trivial

theorem ofTables_fails (tables : List Table) : FailsOnly IsFault (Layout.ofTables tables) := by
  refine bind (checkNames_fails [] tables) fun _ =>
    bind (forM (checkTable_fails tables)) fun _ => ?_
  split
  · exact error trivial
  · exact passes_fails {} tables

end Hierarchy

theorem Counter.ofSequences_fails (layout : Layout) (sequences : List Sequence) :
    FailsOnly IsFault (Counter.ofSequences layout sequences) := by
  refine foldlM (fun counters s => ?_) []
  unfold Counter.add
  dsimp only
  split
  · exact error trivial
  split
  · exact ok _
  split
  · exact ok _
  · exact error trivial

namespace Constraint

variable {owner : PlacedTable} {c : Constraint}

theorem resolve_fails (layout : Layout) (table : String) :
    FailsOnly IsFault (resolve layout table) := by
  unfold resolve
  split
  · exact ok _
  · exact error trivial

theorem checkColumns_fails (p : PlacedTable) (columns : List String) :
    FailsOnly IsFault (checkColumns p columns) := by
  unfold checkColumns
  split
  · exact error trivial
  · exact ok ()

theorem toIndex_fails (c : Constraint) (owner : PlacedTable) (unique : Bool) :
    FailsOnly IsFault (c.toIndex owner unique) := by
  refine refusing trivial (bind (checkColumns_fails owner c.columns) fun _ => ?_)
  split
  · exact ok none
  · exact ok _

theorem toForeignKey_fails (c : Constraint) (layout : Layout) (owner : PlacedTable)
    (references : String) (referencedColumns : List String) :
    FailsOnly IsFault (c.toForeignKey layout owner references referencedColumns) := by
  refine refusing trivial (bind (checkColumns_fails owner c.columns) fun _ => ?_)
  refine bind (resolve_fails layout references) fun referenced => ?_
  exact bind (checkColumns_fails referenced _) fun _ => refusing trivial (ok _)

theorem toCheck_fails (c : Constraint) (owner : PlacedTable) (expression : String)
    (tables : List String) :
    FailsOnly IsFault (c.toCheck owner expression tables) := by
  unfold toCheck
  cases tables.find? (· != owner.name) with
  | some other =>
    exact error (e := unsupportedConstraint owner.name (.readsOtherTable other)) trivial
  | none => exact refusing trivial (bind (checkColumns_fails owner c.columns) fun _ => ok _)

theorem toFragment_fails (c : Constraint) (layout : Layout) :
    FailsOnly IsFault (c.toFragment layout) := by
  refine bind (resolve_fails layout c.table) fun owner => ?_
  cases c.kind with
  | unique => exact toIndex_fails c owner true
  | index => exact toIndex_fails c owner false
  | foreignKey references referencedColumns =>
    exact toForeignKey_fails c layout owner references referencedColumns
  | check expression tables => exact toCheck_fails c owner expression tables

end Constraint

end Faults

/-! ## The first fault -/

theorem Design.ofSchema_eq_error : Design.ofSchema schema = .error e ↔ schema.FirstFault e := by
  unfold Design.ofSchema
  constructor
  · intro h
    rcases bind_eq_error.1 h with h | ⟨layout, hlayout, h⟩
    · exact .tables h
    rcases bind_eq_error.1 h with h | ⟨counters, hcounters, h⟩
    · exact .sequences hlayout h
    rcases bind_eq_error.1 h with h | ⟨_, _, h⟩
    · obtain ⟨before, c, after, hdeclared, hbefore, hc⟩ := mapM_eq_error.1 h
      exact .constraint hlayout hcounters hdeclared hbefore hc
    · nomatch h
  · intro h
    cases h with
    | tables h => exact bind_eq_error.2 (.inl h)
    | sequences hlayout h => exact bind_eq_error.2 (.inr ⟨_, hlayout, bind_eq_error.2 (.inl h)⟩)
    | constraint hlayout hcounters hdeclared hbefore h =>
      have hconstraints := mapM_eq_error.2 ⟨_, _, _, hdeclared, hbefore, h⟩
      refine bind_eq_error.2 (.inr ⟨_, hlayout, bind_eq_error.2 (.inr ⟨_, hcounters, ?_⟩)⟩)
      exact bind_eq_error.2 (.inl hconstraints)

namespace Schema

theorem FirstFault.isFault (h : schema.FirstFault e) : e.IsFault := by
  cases h with
  | tables h => exact ofTables_fails _ e h
  | sequences _ h => exact Counter.ofSequences_fails _ _ e h
  | constraint _ _ _ _ h => exact Constraint.toFragment_fails _ _ e h

/-- A script is refused only for want of a design. -/
theorem script_eq_error : schema.script existing action = .error e ↔ schema.FirstFault e := by
  rw [← Design.ofSchema_eq_error, Schema.script, bind_eq_error]
  refine or_iff_left ?_
  rintro ⟨d, -, h⟩
  rw [Design.script_eq] at h
  nomatch h

/-- **A schema has a fault or a script for every action.** It is refused for its first fault
whatever the action and whatever exists. Without one it can be dropped and created, and replacing it
is the one and then the other. -/
theorem fault_or_scripts (schema : Schema) :
    (∀ existing action e, schema.script existing action = .error e ↔ schema.FirstFault e) ∧
    (∀ e, schema.FirstFault e → e.IsFault) ∧
    ((∃ e, schema.FirstFault e) ∨
      ∃ (drops : Catalog → List (Batch Statement)) (creates : List (Batch Statement)), ∀ existing,
        schema.script existing .drop = .ok ⟨drops existing⟩ ∧
        schema.script existing .create = .ok ⟨creates⟩ ∧
        schema.script existing .replace = .ok ⟨drops existing ++ creates⟩) := by
  refine ⟨fun _ _ _ => script_eq_error, fun _ h => h.isFault, ?_⟩
  cases hd : Design.ofSchema schema with
  | error e => exact .inl ⟨e, Design.ofSchema_eq_error.1 hd⟩
  | ok d =>
    refine .inr ⟨fun existing => d.batches existing .drop, d.batches {} .create,
      fun existing => ⟨?_, ?_, ?_⟩⟩
    · exact script_eq_ok.2 ⟨d, hd, rfl⟩
    · exact script_eq_ok.2 ⟨d, hd, rfl⟩
    · exact script_eq_ok.2 ⟨d, hd, rfl⟩

end Schema

end Interleave
