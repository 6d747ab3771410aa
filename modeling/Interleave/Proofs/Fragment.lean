import Interleave.Fragment
import Interleave.Proofs.Hierarchy.Placement

/-!
# What constraints become

* `Layout.Offers`: a table with some columns is in the layout.
* `Fragment.Fits`: all that an object names is in the layout.
* `Constraint.fragment?`: the object alone.
* `Constraint.Becomes`: what an accepted constraint comes to, one case for each sort of object.
* `Constraint.toFragment_ok`: **a constraint that is accepted keeps to the layout**, and so does its
  object.

`toIndex_eq_ok`, `toForeignKey_eq_ok` and `toCheck_eq_ok` say for each sort of object when it can be
had, and what it is.
-/

namespace Interleave

/-- A table of exactly this name is in the layout and declares the columns. -/
def Layout.Offers (l : Layout) (table : String) (columns : List String) : Prop :=
  ∃ p ∈ l.order, p.name = table ∧ ∀ column ∈ columns, p.table.declares column = true

def Fragment.Fits (l : Layout) : Fragment → Prop
  | .index table _ _ columns => l.Offers table columns
  | .foreignKey table _ columns references target =>
    l.Offers table columns ∧ l.Offers references target
  | .check table _ _ => l.Offers table []

/-- The object that the constraint becomes on the layout. None if it is refused or needs none. -/
def Constraint.fragment? (c : Constraint) (layout : Layout) : Option Fragment :=
  (c.toFragment layout).toOption.join

namespace Constraint

variable {c : Constraint} {layout : Layout} {owner p : PlacedTable} {unique : Bool} {table : String}
  {expression references : String} {columns referencedColumns tables : List String}
  {f? : Option Fragment}

theorem fragment?_of_toFragment (h : c.toFragment layout = .ok f?) : c.fragment? layout = f? := by
  rw [fragment?, h]
  rfl

theorem fragment?_eq_some {f : Fragment} :
    c.fragment? layout = some f ↔ c.toFragment layout = .ok (some f) := by
  constructor
  · intro h
    cases hc : c.toFragment layout with
    | error e =>
      rw [fragment?, hc] at h
      nomatch h
    | ok f? =>
      rw [fragment?_of_toFragment hc] at h
      rw [h]
  · exact fragment?_of_toFragment

/-- The objects of accepted constraints. -/
theorem filterMap_fragment? {constraints : List Constraint} {fragments : List (Option Fragment)}
    (h : List.Forall₂ (fun c f? => toFragment c layout = .ok f?) constraints fragments) :
    fragments.filterMap id = constraints.filterMap (·.fragment? layout) := by
  induction h with
  | nil => rfl
  | cons hc _ ih =>
    rw [List.filterMap_cons, List.filterMap_cons, fragment?_of_toFragment hc, ih]
    rfl

theorem resolve_eq_ok : resolve layout table = .ok p ↔ layout.find? table = some p := by
  unfold resolve
  cases layout.find? table with
  | none => exact ⟨fun h => (nomatch h), fun h => (nomatch h)⟩
  | some q =>
    exact ⟨fun h => congrArg some (Except.ok.inj h),
      fun h => congrArg Except.ok (Option.some.inj h)⟩

theorem checkColumns_eq_ok : checkColumns p columns = .ok () ↔
    ∀ column ∈ columns, p.table.declares column = true := by
  rw [← Table.find?_undeclared_eq_none]
  unfold checkColumns
  cases columns.find? fun column => !p.table.declares column with
  | none => exact ⟨fun _ => rfl, fun _ => rfl⟩
  | some column => exact ⟨fun h => (nomatch h), fun h => (nomatch h)⟩

theorem name_of_resolve (h : resolve layout table = .ok p) : p.name = table := by
  simpa using List.find?_some (resolve_eq_ok.1 h)

theorem offers_of_resolve (h : resolve layout table = .ok p)
    (hcolumns : ∀ column ∈ columns, p.table.declares column = true) : layout.Offers table columns :=
  ⟨p, List.mem_of_find?_eq_some (resolve_eq_ok.1 h), name_of_resolve h, hcolumns⟩

theorem toIndex_eq_ok : c.toIndex owner unique = .ok f? ↔ c.columns ≠ [] ∧
    (∀ column ∈ c.columns, owner.table.declares column = true) ∧
    f? = if unique && c.columns == owner.key then none else
      some (.index owner.name
        (c.name.getD (DerivedName.index
          (if unique then DerivedName.uniqueMark else DerivedName.indexMark) owner.name c.columns))
        unique c.columns) := by
  unfold toIndex
  rw [refusing_eq_ok, bind_eq_ok, List.isEmpty_iff]
  constructor
  · rintro ⟨hsome, _, hcheck, h⟩
    refine ⟨hsome, checkColumns_eq_ok.1 hcheck, ?_⟩
    split at h
    · next hkey => rw [if_pos hkey]; exact (Except.ok.inj h).symm
    · next hkey => rw [if_neg hkey]; exact (Except.ok.inj h).symm
  · rintro ⟨hsome, hcolumns, rfl⟩
    refine ⟨hsome, (), checkColumns_eq_ok.2 hcolumns, ?_⟩
    split <;> rfl

theorem toForeignKey_eq_ok : c.toForeignKey layout owner references referencedColumns = .ok f? ↔
    c.columns ≠ [] ∧ (∀ column ∈ c.columns, owner.table.declares column = true) ∧
    ∃ p target, resolve layout references = .ok p ∧
      target = (if referencedColumns.isEmpty then p.key else referencedColumns) ∧
      (∀ column ∈ target, p.table.declares column = true) ∧ target.length = c.columns.length ∧
      f? = some (.foreignKey owner.name
        (c.name.getD (DerivedName.foreignKey owner.name p.name c.columns)) c.columns p.name
        target) := by
  unfold toForeignKey
  rw [refusing_eq_ok, bind_eq_ok, List.isEmpty_iff]
  constructor
  · rintro ⟨hsome, _, hcheck, h⟩
    obtain ⟨p, hresolve, h⟩ := bind_eq_ok.1 h
    obtain ⟨_, htarget, h⟩ := bind_eq_ok.1 h
    obtain ⟨hlength, h⟩ := refusing_eq_ok.1 h
    exact ⟨hsome, checkColumns_eq_ok.1 hcheck, p, _, hresolve, rfl, checkColumns_eq_ok.1 htarget,
      by simpa using hlength, (Except.ok.inj h).symm⟩
  · rintro ⟨hsome, hcolumns, p, target, hresolve, rfl, htarget, hlength, rfl⟩
    refine ⟨hsome, (), checkColumns_eq_ok.2 hcolumns, bind_eq_ok.2 ⟨p, hresolve, ?_⟩⟩
    refine bind_eq_ok.2 ⟨(), checkColumns_eq_ok.2 htarget, refusing_eq_ok.2 ⟨?_, rfl⟩⟩
    simpa using hlength

theorem toCheck_eq_ok : c.toCheck owner expression tables = .ok f? ↔
    (∀ table ∈ tables, table = owner.name) ∧
    Text.isBlankText expression = false ∧
    (∀ column ∈ c.columns, owner.table.declares column = true) ∧
    f? = some (.check owner.name (c.name.getD (DerivedName.check owner.name expression))
      expression) := by
  have hother : (∀ table ∈ tables, table = owner.name) ↔
      tables.find? (· != owner.name) = none := by simp
  unfold toCheck
  rw [hother]
  cases tables.find? (· != owner.name) with
  | some other => exact ⟨fun h => (nomatch h), fun h => (nomatch h.1)⟩
  | none =>
    dsimp only
    rw [refusing_eq_ok, bind_eq_ok, Bool.not_eq_true]
    exact ⟨fun ⟨hblank, (), hcheck, h⟩ =>
        ⟨rfl, hblank, checkColumns_eq_ok.1 hcheck, (Except.ok.inj h).symm⟩,
      fun ⟨_, hblank, hcheck, h⟩ => ⟨hblank, (), checkColumns_eq_ok.2 hcheck, h ▸ rfl⟩⟩

/-- What an accepted constraint comes to. Its object is on its own table and has the name that it
gives, or else a derived one. -/
inductive Becomes (c : Constraint) (layout : Layout) : Option Fragment → Prop
  | nothing (hoffers : layout.Offers c.table c.columns) : Becomes c layout none
  | index {unique : Bool} (hkind : c.kind = if unique then .unique else .index)
    (hoffers : layout.Offers c.table c.columns) :
    Becomes c layout (some (.index c.table
      (c.name.getD (DerivedName.index
        (if unique then DerivedName.uniqueMark else DerivedName.indexMark) c.table c.columns))
      unique c.columns))
  | foreignKey {references : String} {referencedColumns target : List String}
    (hkind : c.kind = .foreignKey references referencedColumns)
    (hoffers : layout.Offers c.table c.columns) (htarget : layout.Offers references target) :
    Becomes c layout (some (.foreignKey c.table
      (c.name.getD (DerivedName.foreignKey c.table references c.columns)) c.columns references
      target))
  | check {expression : String} {tables : List String} (hkind : c.kind = .check expression tables)
    (hoffers : layout.Offers c.table c.columns) :
    Becomes c layout
      (some (.check c.table (c.name.getD (DerivedName.check c.table expression)) expression))

/-- **What translation accepts**, one case for each sort of object. -/
theorem becomes_of_toFragment (h : c.toFragment layout = .ok f?) : c.Becomes layout f? := by
  obtain ⟨owner, hresolve, h⟩ := bind_eq_ok.1 h
  have hname : owner.name = c.table := name_of_resolve hresolve
  have hindex : ∀ unique, c.kind = (if unique then .unique else .index) →
      c.toIndex owner unique = .ok f? →
      c.Becomes layout f? := by
    intro unique hkind h
    obtain ⟨-, hcolumns, rfl⟩ := toIndex_eq_ok.1 h
    rw [hname]
    split
    · exact .nothing (offers_of_resolve hresolve hcolumns)
    · exact .index hkind (offers_of_resolve hresolve hcolumns)
  cases hkind : c.kind with
  | unique => exact hindex true hkind (by rwa [hkind] at h)
  | index => exact hindex false hkind (by rwa [hkind] at h)
  | foreignKey references referencedColumns =>
    rw [hkind] at h
    obtain ⟨-, hcolumns, p, target, hreferenced, -, htarget, -, rfl⟩ := toForeignKey_eq_ok.1 h
    rw [hname, name_of_resolve hreferenced]
    exact .foreignKey hkind (offers_of_resolve hresolve hcolumns)
      (offers_of_resolve hreferenced htarget)
  | check expression tables =>
    rw [hkind] at h
    obtain ⟨-, -, hcolumns, rfl⟩ := toCheck_eq_ok.1 h
    rw [hname]
    exact .check hkind (offers_of_resolve hresolve hcolumns)

/-- **An accepted constraint keeps to the layout**: its columns are its table's, and its object
fits. -/
theorem toFragment_ok (h : c.toFragment layout = .ok f?) :
    layout.Offers c.table c.columns ∧ ∀ f ∈ f?, f.Fits layout := by
  cases becomes_of_toFragment h with
  | nothing hoffers =>
    refine ⟨hoffers, fun f hf => ?_⟩
    nomatch hf
  | index _ hoffers =>
    refine ⟨hoffers, fun f hf => ?_⟩
    obtain rfl := Option.some.inj hf
    exact hoffers
  | foreignKey _ hoffers htarget =>
    refine ⟨hoffers, fun f hf => ?_⟩
    obtain rfl := Option.some.inj hf
    exact ⟨hoffers, htarget⟩
  | check _ hoffers =>
    refine ⟨hoffers, fun f hf => ?_⟩
    obtain rfl := Option.some.inj hf
    -- a check fits on its table, whatever its columns are
    obtain ⟨p, hp, hname, -⟩ := hoffers
    exact ⟨p, hp, hname, fun column hcolumn => nomatch hcolumn⟩

end Constraint

end Interleave
