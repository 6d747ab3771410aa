import Interleave.Proofs.Objects
import Interleave.Proofs.SharedNames

/-!
# Which constraints are accepted

* `Constraint.Acceptable`: what a layout has to hold for a constraint, said without any check.
* `Constraint.acceptable_of_toFragment`, `Constraint.exists_toFragment_of_acceptable`: a constraint
  is accepted exactly if this holds.
* `Constraint.toFragment_eq_none_iff`: it needs no object exactly if it is a unique one over the key
  of its table. Such a constraint is always accepted, as a key is never empty and its columns are
  declared.
* `Constraint.Gives`: what the object of a constraint is like, and the statements in which its name
  stands.
* `Constraint.toFragment_outcome`: **all three together**: refused, not needed, or one object.
-/

namespace Interleave

open Hierarchy

variable {tables : List Table} {layout : Layout} {c : Constraint} {f : Fragment}
  {f? : Option Fragment} {p : PlacedTable}

/-- The columns that a foreign key refers to: those given, or else the whole key of the table. -/
def PlacedTable.target (p : PlacedTable) (referencedColumns : List String) : List String :=
  if referencedColumns = [] then p.key else referencedColumns

theorem PlacedTable.target_eq (p : PlacedTable) (referencedColumns : List String) :
    p.target referencedColumns =
      if referencedColumns.isEmpty then p.key else referencedColumns := by
  simp only [target, List.isEmpty_iff]

namespace Constraint

/-- What each kind of constraint asks for beyond a table with the columns. -/
def Kind.Suits (layout : Layout) (table : String) (columns : List String) : Kind → Prop
  | .unique | .index => columns ≠ []
  | .foreignKey references referencedColumns =>
    columns ≠ [] ∧ ∃ p ∈ layout.order, p.name = references ∧
      (∀ column ∈ p.target referencedColumns, p.table.declares column = true) ∧
      (p.target referencedColumns).length = columns.length
  -- an expression may not read other tables, and has to say something
  | .check expression reads =>
    (∀ t ∈ reads, t = table) ∧ ∃ ch ∈ expression.toList, Text.isBlank ch = false

/-- The table is there and declares the columns, and the kind asks for no more. -/
def Acceptable (layout : Layout) (c : Constraint) : Prop :=
  layout.Offers c.table c.columns ∧ c.kind.Suits layout c.table c.columns

instance {columns : List String} {table : String} (kind : Kind) :
    Decidable (kind.Suits layout table columns) :=
  match kind with
  | .unique | .index => inferInstanceAs (Decidable (columns ≠ []))
  | .foreignKey references referencedColumns =>
    inferInstanceAs (Decidable (columns ≠ [] ∧ ∃ p ∈ layout.order, p.name = references ∧
      (∀ column ∈ p.target referencedColumns, p.table.declares column = true) ∧
      (p.target referencedColumns).length = columns.length))
  | .check expression reads =>
    inferInstanceAs (Decidable ((∀ t ∈ reads, t = table) ∧
      ∃ ch ∈ expression.toList, Text.isBlank ch = false))

instance : Decidable (c.Acceptable layout) :=
  inferInstanceAs (Decidable ((∃ p ∈ layout.order, p.name = c.table ∧
    ∀ column ∈ c.columns, p.table.declares column = true) ∧ c.kind.Suits layout c.table c.columns))

/-- The name of an object whose constraint gives none. -/
def derivedName (c : Constraint) : String :=
  match c.kind with
  | .unique => DerivedName.index DerivedName.uniqueMark c.table c.columns
  | .index => DerivedName.index DerivedName.indexMark c.table c.columns
  | .foreignKey references _ => DerivedName.foreignKey c.table references c.columns
  | .check expression _ => DerivedName.check c.table expression

/-- What stands in front of the name in the statement that creates the object. -/
def opening (c : Constraint) : String :=
  match c.kind with
  | .unique => "create unique index "
  | .index => "create index "
  | .foreignKey _ _ | .check _ _ => "alter table " ++ c.table ++ " add constraint "

/-- `f` is what the constraint stands for. -/
structure Gives (c : Constraint) (f : Fragment) : Prop where
  sort : f.sort = c.sort
  owner : f.owner = c.table
  name : f.name = c.name.getD c.derivedName
  creates : ∃ definition, (Statement.add f).text = c.opening ++ f.name ++ " " ++ definition
  /-- Indexes alone are dropped by name. -/
  drops : f.drop?.map Statement.text =
    if f.sort = .index then some ("drop index " ++ f.name) else none

theorem isBlankText_eq_false_iff {text : String} :
    Text.isBlankText text = false ↔ ∃ ch ∈ text.toList, Text.isBlank ch = false := by
  simp [Text.isBlankText]

theorem exists_owner (hf : c.toFragment layout = .ok f?) : ∃ owner,
    layout.find? c.table = some owner := by
  obtain ⟨owner, hresolve, -⟩ := bind_eq_ok.1 hf
  exact ⟨owner, resolve_eq_ok.1 hresolve⟩

/-- The kind decides how a constraint on a known table is translated. -/
theorem toFragment_of_find? {owner : PlacedTable} (h : layout.find? c.table = some owner) :
    c.toFragment layout =
    match c.kind with
    | .unique => toIndex c owner true
    | .index => toIndex c owner false
    | .foreignKey references referencedColumns =>
      toForeignKey c layout owner references referencedColumns
    | .check expression reads => toCheck c owner expression reads := by
  rw [toFragment, resolve_eq_ok.2 h]
  rfl

section Laid

variable (h : Layout.ofTables tables = .ok layout)
include h

theorem find?_iff_of_ofTables {name : String} :
    layout.find? name = some p ↔ p ∈ layout.order ∧ p.name = name :=
  find?_eq_some_iff (nodup_names_of_ofTables h)

/-- What is accepted is acceptable. -/
theorem acceptable_of_toFragment (hf : c.toFragment layout = .ok f?) : c.Acceptable layout := by
  refine ⟨(toFragment_ok hf).1, ?_⟩
  obtain ⟨owner, howner⟩ := exists_owner hf
  rw [toFragment_of_find? howner] at hf
  cases hkind : c.kind with
  | unique =>
    rw [hkind] at hf
    exact (toIndex_eq_ok.1 hf).1
  | index =>
    rw [hkind] at hf
    exact (toIndex_eq_ok.1 hf).1
  | foreignKey references referencedColumns =>
    rw [hkind] at hf
    obtain ⟨hsome, -, p, target, hresolve, htarget, hcolumns, hlength, -⟩ := toForeignKey_eq_ok.1 hf
    obtain ⟨hp, hname⟩ := (find?_iff_of_ofTables h).1 (resolve_eq_ok.1 hresolve)
    rw [← PlacedTable.target_eq] at htarget
    subst htarget
    exact ⟨hsome, p, hp, hname, hcolumns, hlength⟩
  | check expression reads =>
    rw [hkind] at hf
    obtain ⟨hreads, hblank, -, -⟩ := toCheck_eq_ok.1 hf
    have hname : owner.name = c.table := ((find?_iff_of_ofTables h).1 howner).2
    exact ⟨fun t ht => (hreads t ht).trans hname, isBlankText_eq_false_iff.1 hblank⟩

/-- What is acceptable is accepted. -/
theorem exists_toFragment_of_acceptable (hc : c.Acceptable layout) : ∃ f?,
    c.toFragment layout = .ok f? := by
  obtain ⟨⟨owner, howner, hname, hcolumns⟩, hkind⟩ := hc
  have hfind : layout.find? c.table = some owner := (find?_iff_of_ofTables h).2 ⟨howner, hname⟩
  rw [toFragment_of_find? hfind]
  cases hk : c.kind with
  | unique =>
    rw [hk] at hkind
    exact ⟨_, toIndex_eq_ok.2 ⟨hkind, hcolumns, rfl⟩⟩
  | index =>
    rw [hk] at hkind
    exact ⟨_, toIndex_eq_ok.2 ⟨hkind, hcolumns, rfl⟩⟩
  | foreignKey references referencedColumns =>
    rw [hk] at hkind
    obtain ⟨hsome, p, hp, hpname, htarget, hlength⟩ := hkind
    have hresolve : resolve layout references = .ok p :=
      resolve_eq_ok.2 ((find?_iff_of_ofTables h).2 ⟨hp, hpname⟩)
    exact ⟨_, toForeignKey_eq_ok.2 ⟨hsome, hcolumns, p, _, hresolve, p.target_eq _, htarget,
      hlength, rfl⟩⟩
  | check expression reads =>
    rw [hk] at hkind
    obtain ⟨hreads, hblank⟩ := hkind
    exact ⟨_, toCheck_eq_ok.2 ⟨fun t ht => (hreads t ht).trans hname.symm,
      isBlankText_eq_false_iff.2 hblank, hcolumns, rfl⟩⟩

/-- **A constraint needs no object exactly if it is a unique one over the key of its table.** -/
theorem toFragment_eq_none_iff : c.toFragment layout = .ok none ↔
    c.kind = .unique ∧ ∃ owner ∈ layout.order, owner.name = c.table ∧ c.columns = owner.key := by
  constructor
  · intro hf
    obtain ⟨owner, howner⟩ := exists_owner hf
    rw [toFragment_of_find? howner] at hf
    obtain ⟨hmem, hname⟩ := (find?_iff_of_ofTables h).1 howner
    cases hkind : c.kind with
    | unique =>
      rw [hkind] at hf
      obtain ⟨-, -, hnone⟩ := toIndex_eq_ok.1 hf
      refine ⟨rfl, owner, hmem, hname, ?_⟩
      by_contra hne
      simp [hne] at hnone
    | index =>
      rw [hkind] at hf
      obtain ⟨-, -, hnone⟩ := toIndex_eq_ok.1 hf
      simp at hnone
    | foreignKey references referencedColumns =>
      rw [hkind] at hf
      obtain ⟨-, -, _, _, -, -, -, -, hnone⟩ := toForeignKey_eq_ok.1 hf
      nomatch hnone
    | check expression reads =>
      rw [hkind] at hf
      obtain ⟨-, -, -, hnone⟩ := toCheck_eq_ok.1 hf
      nomatch hnone
  · rintro ⟨hkind, owner, howner, hname, hkey⟩
    have hfull := fullKey_of_mem h howner
    rw [toFragment_of_find? ((find?_iff_of_ofTables h).2 ⟨howner, hname⟩), hkind]
    refine toIndex_eq_ok.2 ⟨hkey ▸ hfull.ne_nil, fun column hcolumn => ?_, by simp [hkey]⟩
    rw [hkey] at hcolumn
    exact Table.declares_iff.2 (hfull.declared column hcolumn)

end Laid

/-- The object of a constraint without a name of its own has the derived one. -/
theorem derivedName_of_toFragment (hf : c.toFragment layout = .ok (some f)) :
    f.derivedName = c.derivedName := by
  unfold derivedName
  cases becomes_of_toFragment hf with
  | @index unique hkind =>
    rw [hkind]
    cases unique <;> rfl
  | foreignKey hkind | check hkind =>
    rw [hkind]
    rfl

/-- The name stands behind the opening of the statement. -/
theorem exists_definition (hf : c.toFragment layout = .ok (some f)) :
    ∃ definition, (Statement.add f).text = c.opening ++ f.name ++ " " ++ definition := by
  unfold opening
  cases becomes_of_toFragment hf with
  | @index unique hkind =>
    generalize c.name.getD _ = name
    have htext : (Statement.add (.index c.table name unique c.columns)).text =
        "create " ++ (if unique then "unique " else "") ++ "index " ++ name ++ " on " ++ c.table ++
          " (" ++ ",".intercalate c.columns ++ ")" := rfl
    refine ⟨"on " ++ c.table ++ " (" ++ ",".intercalate c.columns ++ ")", ?_⟩
    rw [htext, hkind, ← String.toList_inj]
    cases unique <;> simp [Fragment.name]
  | @foreignKey references _ target hkind =>
    generalize c.name.getD _ = name
    have htext : (Statement.add (.foreignKey c.table name c.columns references target)).text =
        "alter table " ++ c.table ++ " add constraint " ++ name ++
          " foreign key (" ++ ",".intercalate c.columns ++ ")" ++
          " references " ++ references ++ " (" ++ ",".intercalate target ++ ")" := rfl
    refine ⟨"foreign key (" ++ ",".intercalate c.columns ++
      ") references " ++ references ++ " (" ++ ",".intercalate target ++ ")", ?_⟩
    rw [htext, hkind, ← String.toList_inj]
    simp [Fragment.name]
  | @check expression _ hkind =>
    generalize c.name.getD _ = name
    have htext : (Statement.add (.check c.table name expression)).text =
        "alter table " ++ c.table ++ " add constraint " ++ name ++
          " check (" ++ expression ++ ")" := rfl
    refine ⟨"check (" ++ expression ++ ")", ?_⟩
    rw [htext, hkind, ← String.toList_inj]
    simp [Fragment.name]

theorem gives_of_toFragment (hf : c.toFragment layout = .ok (some f)) : c.Gives f := by
  refine ⟨sort_of_toFragment hf, owner_of_toFragment hf, ?_, exists_definition hf, ?_⟩
  · rw [name_of_toFragment hf, derivedName_of_toFragment hf]
  · cases f with
    | index | foreignKey | check => rfl

/-- **What translation comes to.** A constraint is accepted exactly if it is acceptable. It needs no
object exactly if it is a unique one over the key of its table. Every other acceptable constraint
has one object, which is of its sort, on its table and under its name. -/
theorem toFragment_outcome (h : Layout.ofTables tables = .ok layout) (c : Constraint) :
    ((∃ f?, c.toFragment layout = .ok f?) ↔ c.Acceptable layout) ∧
    (c.toFragment layout = .ok none ↔
      c.kind = .unique ∧ ∃ owner ∈ layout.order, owner.name = c.table ∧ c.columns = owner.key) ∧
    (c.Acceptable layout → c.toFragment layout ≠ .ok none →
      ∃ f, c.toFragment layout = .ok (some f) ∧ c.Gives f) := by
  refine ⟨⟨fun ⟨_, hf⟩ => acceptable_of_toFragment h hf, exists_toFragment_of_acceptable h⟩,
    toFragment_eq_none_iff h, ?_⟩
  intro hc hneeded
  obtain ⟨f?, hf⟩ := exists_toFragment_of_acceptable h hc
  cases f? with
  | none => exact absurd hf hneeded
  | some f => exact ⟨f, hf, gives_of_toFragment hf⟩

/-- A foreign key to the rooms refers to their whole key, of which the hotel is a part. -/
theorem toFragment_outcome_hotels : Layout.ofTables hotels.tables = .ok hotelLayout ∧
    (∃ f, (foreignKey "Room" ["RoomId", "HotelId"] "Room").toFragment hotelLayout = .ok (some f) ∧
      f.sort = .foreignKey ∧ f.owner = "Room" ∧
      f.name = DerivedName.foreignKey "Room" "Room" ["RoomId", "HotelId"] ∧
      f.drop? = none) ∧
    (¬ ∃ f?, (foreignKey "Room" ["RoomId"] "Room").toFragment hotelLayout = .ok f?) ∧
    (unique "Room" ["HotelId", "RoomId"]).toFragment hotelLayout = .ok none := by
  have h : Layout.ofTables hotels.tables = .ok hotelLayout := by decide +kernel
  obtain ⟨-, hneeded, hobject⟩ :=
    toFragment_outcome h (foreignKey "Room" ["RoomId", "HotelId"] "Room")
  obtain ⟨haccepted, -, -⟩ := toFragment_outcome h (foreignKey "Room" ["RoomId"] "Room")
  obtain ⟨-, hnone, -⟩ := toFragment_outcome h (unique "Room" ["HotelId", "RoomId"])
  refine ⟨h, ?_, ?_, ?_⟩
  · obtain ⟨f, hf, hgives⟩ := hobject (by decide) fun hnone => nomatch (hneeded.1 hnone).1
    refine ⟨f, hf, hgives.sort, hgives.owner, hgives.name, ?_⟩
    have hdrops := hgives.drops
    rw [hgives.sort] at hdrops
    exact Option.map_eq_none_iff.1 hdrops
  · rw [haccepted]
    decide
  · rw [hnone]
    decide

end Constraint

end Interleave
