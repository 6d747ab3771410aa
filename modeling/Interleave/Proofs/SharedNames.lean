import Interleave.Proofs.Creation
import Interleave.Proofs.DerivedName

/-!
# Objects that share a name

A constraint without a name of its own gets one that is derived from what it constrains. A derived
name does not tell everything about the object that bears it.

* `Fragment.mark`, `Fragment.identity`: what the derived name of an object is made of.
* `Constraint.name_of_toFragment`: an object has its constraint's name or the derived one.
* `Fragment.Alike`: objects that differ only in what a derived name leaves out: the order of
  columns, and what the columns of a foreign key refer to.
* `Fragment.alike_iff`: where names have no backtick, objects with one mark and one identity are
  alike.
* `Schema.shared_name_iff`: **objects with derived names share a name exactly if they have one mark,
  and one identity or identities that collide.**
* `Schema.names_shared_in_ledger`: different objects do share names, and no collision is needed for
  that.
-/

namespace Interleave

open DerivedName

variable {f g : Fragment} {c : Constraint} {layout : Layout}

namespace Fragment

/-- The word that a derived name begins with. -/
def mark : Fragment → String
  | .index _ _ unique _ => if unique then uniqueMark else indexMark
  | .foreignKey .. => foreignKeyMark
  | .check .. => checkMark

/-- The text that a derived name is the digest of. -/
def identity : Fragment → String
  | .index table _ _ columns => indexIdentity table columns
  | .foreignKey table _ columns references _ => foreignKeyIdentity table references columns
  | .check table _ expression => checkIdentity table expression

def derivedName (f : Fragment) : String :=
  f.mark ++ ofIdentity f.identity

/-- The objects differ only in what a derived name leaves out. -/
inductive Alike : Fragment → Fragment → Prop
  | index {table name name' : String} {unique : Bool} {columns columns' : List String}
    (h : columns.Perm columns') :
    Alike (.index table name unique columns) (.index table name' unique columns')
  | foreignKey {table name name' references : String}
    {columns columns' target target' : List String} (h : columns.Perm columns') :
    Alike (.foreignKey table name columns references target)
      (.foreignKey table name' columns' references target')
  | check {table name name' expression : String} :
    Alike (.check table name expression) (.check table name' expression)

/-- Tables and columns have no backtick in their names. An expression may have some. -/
def Unticked : Fragment → Prop
  | .index table _ _ columns => DerivedName.Unticked table ∧ ∀ c ∈ columns, DerivedName.Unticked c
  | .foreignKey table _ columns references _ =>
    DerivedName.Unticked table ∧ DerivedName.Unticked references ∧
      ∀ c ∈ columns, DerivedName.Unticked c
  | .check table _ _ => DerivedName.Unticked table

/-- The mark of an object is one of four. -/
theorem mark_mem (f : Fragment) : f.mark ∈ [uniqueMark, indexMark, foreignKeyMark, checkMark] := by
  cases f with
  | index table name unique columns => cases unique <;> simp [mark]
  | foreignKey | check => simp [mark]

/-- A derived name tells its mark: none of the four begins another. -/
theorem mark_append_eq_iff {rest rest' : String} :
    f.mark ++ rest = g.mark ++ rest' ↔ f.mark = g.mark ∧ rest = rest' :=
  Text.append_eq_iff_of_words (by decide) f.mark_mem g.mark_mem

/-- **Derived names are equal** for one mark and one identity, and where identities collide. -/
theorem derivedName_eq_iff : f.derivedName = g.derivedName ↔
    f.mark = g.mark ∧ (f.identity = g.identity ∨ Collide f.identity g.identity) := by
  rw [derivedName, derivedName, mark_append_eq_iff, ofIdentity_eq_iff]

/-- A mark tells the sort of an object. -/
theorem sort_eq_of_mark_eq (h : f.mark = g.mark) : f.sort = g.sort := by
  have hindex : ∀ unique : Bool, (if unique then uniqueMark else indexMark) ≠ foreignKeyMark ∧
      (if unique then uniqueMark else indexMark) ≠ checkMark := by decide
  have hothers : foreignKeyMark ≠ checkMark := by decide
  cases f with
  | index table name unique columns =>
    cases g with
    | index => rfl
    | foreignKey => exact absurd h (hindex unique).1
    | check => exact absurd h (hindex unique).2
  | foreignKey =>
    cases g with
    | index table name unique columns => exact absurd h.symm (hindex unique).1
    | foreignKey => rfl
    | check => exact absurd h hothers
  | check =>
    cases g with
    | index table name unique columns => exact absurd h.symm (hindex unique).2
    | foreignKey => exact absurd h.symm hothers
    | check => rfl

/-- **Mark and identity tell all but what alike objects differ in**, where names have no backtick.
-/
theorem alike_iff (hf : f.Unticked) (hg : g.Unticked) :
    f.mark = g.mark ∧ f.identity = g.identity ↔ f.Alike g := by
  constructor
  · rintro ⟨hmark, hidentity⟩
    have hsort := sort_eq_of_mark_eq hmark
    cases f with
    | index table name unique columns =>
      cases g with
      | index table' name' unique' columns' =>
        obtain ⟨rfl, hperm⟩ := (indexIdentity_eq_iff hf.1 hg.1 hf.2 hg.2).1 hidentity
        have hunique : ∀ b b' : Bool, (if b then uniqueMark else indexMark) =
            (if b' then uniqueMark else indexMark) →
            b = b' := by decide
        obtain rfl := hunique _ _ hmark
        exact .index hperm
      | foreignKey | check => nomatch hsort
    | foreignKey table name columns references target =>
      cases g with
      | foreignKey table' name' columns' references' target' =>
        obtain ⟨rfl, rfl, hperm⟩ :=
          (foreignKeyIdentity_eq_iff hf.1 hg.1 hf.2.1 hg.2.1 hf.2.2 hg.2.2).1 hidentity
        exact .foreignKey hperm
      | index | check => nomatch hsort
    | check table name expression =>
      cases g with
      | check table' name' expression' =>
        obtain ⟨rfl, rfl⟩ := (checkIdentity_eq_iff hf hg).1 hidentity
        exact .check
      | index | foreignKey => nomatch hsort
  · intro h
    cases h with
    | index hperm => exact ⟨rfl, (indexIdentity_eq_iff hf.1 hg.1 hf.2 hg.2).2 ⟨rfl, hperm⟩⟩
    | foreignKey hperm =>
      exact ⟨rfl,
        (foreignKeyIdentity_eq_iff hf.1 hg.1 hf.2.1 hg.2.1 hf.2.2 hg.2.2).2 ⟨rfl, rfl, hperm⟩⟩
    | check => exact ⟨rfl, rfl⟩

/-- Objects of one name are still different statements if they list other columns. -/
theorem createText_index_ne {table name : String} {unique : Bool} {columns columns' : List String}
    (h : ",".intercalate columns ≠ ",".intercalate columns') :
    (index table name unique columns).createText ≠
      (index table name unique columns').createText := by
  intro htext
  have htext : _ ++ ",".intercalate columns ++ ")" = _ ++ ",".intercalate columns' ++ ")" := htext
  rw [String.append_left_inj, String.append_right_inj] at htext
  exact h htext

theorem createText_foreignKey_ne {table name references : String}
    {columns target target' : List String} (h : ",".intercalate target ≠ ",".intercalate target') :
    (foreignKey table name columns references target).createText ≠
      (foreignKey table name columns references target').createText := by
  intro htext
  have htext : _ ++ ",".intercalate target ++ ")" = _ ++ ",".intercalate target' ++ ")" := htext
  rw [String.append_left_inj, String.append_right_inj] at htext
  exact h htext

end Fragment

namespace Constraint

/-- An object has the name that its constraint gives it, or else the derived one. -/
theorem name_of_toFragment (h : c.toFragment layout = .ok (some f)) :
    f.name = c.name.getD f.derivedName := by
  cases becomes_of_toFragment h with
  | index | foreignKey | check => rfl

end Constraint

variable {schema : Schema} {d : Design} {existing : Catalog} {action : Action}
  {script : Script Statement} {create : Batch Statement}

/-- What a create batch adds are the objects of the design, sort by sort. -/
theorem Design.add_mem_createStatements : .add f ∈ d.createStatements ↔ f ∈ d.fragments := by
  simp only [createStatements_eq, List.mem_append, List.mem_map, reduceCtorEq, and_false,
    exists_false, false_or, Statement.add.injEq, exists_eq_right, ofSort, List.mem_filter,
    beq_iff_eq]
  constructor
  · rintro ((⟨hf, -⟩ | ⟨hf, -⟩) | ⟨hf, -⟩)
    · exact hf
    · exact hf
    · exact hf
  · intro hf
    cases hsort : f.sort with
    | index => exact .inl (.inl ⟨hf, rfl⟩)
    | foreignKey => exact .inl (.inr ⟨hf, rfl⟩)
    | check => exact .inr ⟨hf, rfl⟩

namespace Schema

/-- **When objects with derived names share a name.** They do exactly if they have one mark, and one
identity or identities that collide. Collisions apart, and where names have no backtick, those are
the objects that are alike. -/
theorem shared_name_iff (h : schema.script existing action = .ok script)
    (hcreate : script.batch? .create = some create)
    (hunnamed : ∀ c ∈ schema.constraints, c.name = none) (f g : Fragment)
    (hf : .add f ∈ create.statements) (hg : .add g ∈ create.statements) :
    (f.name = g.name ↔
      f.mark = g.mark ∧ (f.identity = g.identity ∨ Collide f.identity g.identity)) ∧
    (f.Unticked → g.Unticked →
      (f.name = g.name ↔ f.Alike g ∨ f.mark = g.mark ∧ Collide f.identity g.identity)) := by
  obtain ⟨d, hd, rfl⟩ := script_eq_ok.1 h
  obtain rfl : create = ⟨.create, d.createStatements⟩ := eq_of_batch?_create hcreate
  have hderived : ∀ f, .add f ∈ d.createStatements → f.name = f.derivedName := by
    intro f hf
    obtain ⟨c, hc, htranslated⟩ :=
      (Design.mem_fragments hd).1 (Design.add_mem_createStatements.1 hf)
    rw [Constraint.name_of_toFragment htranslated, hunnamed c hc]
    rfl
  have hname : f.name = g.name ↔
      f.mark = g.mark ∧ (f.identity = g.identity ∨ Collide f.identity g.identity) := by
    rw [hderived f hf, hderived g hg]
    exact Fragment.derivedName_eq_iff
  refine ⟨hname, fun hfticks hgticks => ?_⟩
  rw [hname, and_or_left, Fragment.alike_iff hfticks hgticks]

end Schema

/-- The name of the third column reads like the other two. -/
def line : Table where
  name := "Line"
  columns := [{ name := "Item", type := .int64 }, { name := "Amount", type := .int64 },
    { name := "Amount`column`Item", type := .int64 }]
  primaryKey := ["Item"]

/-- No two constraints are equal, and none has a name. -/
def ledger : Schema where
  tables := [line]
  constraints := [.index "Line" ["Amount", "Item"], .index "Line" ["Item", "Amount"],
    .index "Line" ["Amount`column`Item"], .foreignKey "Line" ["Amount"] "Line",
    (Constraint.foreignKey "Line" ["Amount"] "Line").referencing ["Amount"]]

def ledgerIndex (columns : List String) : Fragment :=
  .index "Line" (DerivedName.index indexMark "Line" columns) false columns

def ledgerKey (target : List String) : Fragment :=
  .foreignKey "Line" (DerivedName.foreignKey "Line" "Line" ["Amount"]) ["Amount"] "Line" target

/-- Objects of the ledger that share a name: columns in another order, a column that reads like two,
and other referenced columns. -/
def ledgerPairs : List (Fragment × Fragment) :=
  [(ledgerIndex ["Amount", "Item"], ledgerIndex ["Item", "Amount"]),
    (ledgerIndex ["Amount", "Item"], ledgerIndex ["Amount`column`Item"]),
    (ledgerKey ["Item"], ledgerKey ["Amount"])]

def ledgerObjects : List Fragment :=
  [ledgerIndex ["Amount", "Item"], ledgerIndex ["Item", "Amount"],
    ledgerIndex ["Amount`column`Item"], ledgerKey ["Item"], ledgerKey ["Amount"]]

def ledgerDesign : Design :=
  let layout : Layout := ⟨[⟨line, ["Item"]⟩]⟩
  ⟨layout, [], ledgerObjects.mergeSort (Design.ownerOrder layout)⟩

theorem ofSchema_ledger : Design.ofSchema ledger = .ok ledgerDesign := by
  have hlayout : Layout.ofTables ledger.tables = .ok ledgerDesign.layout := by decide +kernel
  refine Design.ofSchema_eq_ok.2 ⟨hlayout, rfl, ledgerObjects.map some, ?_, rfl⟩
  exact .cons rfl (.cons rfl (.cons rfl (.cons rfl (.cons rfl .nil))))

theorem add_mem_ledger (hf : f ∈ ledgerObjects) : .add f ∈ ledgerDesign.createStatements :=
  Design.add_mem_createStatements.2 (List.mem_mergeSort.2 hf)

/-- A backtick in a name is not escaped, so that one column can read like two. -/
theorem indexIdentity_line_eq :
    indexIdentity "Line" ["Amount", "Item"] = indexIdentity "Line" ["Amount`column`Item"] := by
  have hsorted : ["Amount", "Item"].mergeSort columnOrder = ["Amount", "Item"] :=
    List.mergeSort_of_pairwise (by decide +kernel)
  have hcolumns : columnsIdentity ["Amount", "Item"] = columnsIdentity ["Amount`column`Item"] := by
    rw [columnsIdentity, hsorted]
    decide +kernel
  rw [indexIdentity, hcolumns]
  rfl

theorem ledgerIndex_name_eq {columns columns' : List String}
    (h : indexIdentity "Line" columns = indexIdentity "Line" columns') :
    (ledgerIndex columns).name = (ledgerIndex columns').name := by
  change DerivedName.index indexMark "Line" columns = DerivedName.index indexMark "Line" columns'
  rw [DerivedName.index, h, DerivedName.index]

/-- Indexes of the ledger that list other columns are other statements, though they may have one
name. -/
theorem ledgerIndex_createText_ne {columns columns' : List String}
    (h : indexIdentity "Line" columns = indexIdentity "Line" columns')
    (hcolumns : ",".intercalate columns ≠ ",".intercalate columns') :
    (ledgerIndex columns).createText ≠ (ledgerIndex columns').createText := by
  have hname : DerivedName.index indexMark "Line" columns =
      DerivedName.index indexMark "Line" columns' :=
    ledgerIndex_name_eq h
  rw [ledgerIndex, ledgerIndex, hname]
  exact Fragment.createText_index_ne hcolumns

namespace Schema

/-- In the ledger, an index shares its name with one that lists the columns in another order. -/
theorem shared_name_iff_ledger : ∃ script create, ledger.script {} .create = .ok script ∧
    script.batch? .create = some create ∧ (∀ c ∈ ledger.constraints, c.name = none) ∧
    .add (ledgerIndex ["Amount", "Item"]) ∈ create.statements ∧
    .add (ledgerIndex ["Item", "Amount"]) ∈ create.statements ∧
    (ledgerIndex ["Amount", "Item"]).name = (ledgerIndex ["Item", "Amount"]).name := by
  have hscript : ledger.script {} .create = .ok ⟨ledgerDesign.batches {} .create⟩ :=
    script_eq_ok.2 ⟨_, ofSchema_ledger, rfl⟩
  have hcreate : Script.batch? ⟨ledgerDesign.batches {} .create⟩ .create =
      some ⟨.create, ledgerDesign.createStatements⟩ := batch?_create rfl
  have hunnamed : ∀ c ∈ ledger.constraints, c.name = none := by decide
  have hf := add_mem_ledger (f := ledgerIndex ["Amount", "Item"]) (by simp [ledgerObjects])
  have hg := add_mem_ledger (f := ledgerIndex ["Item", "Amount"]) (by simp [ledgerObjects])
  have hshared := (shared_name_iff hscript hcreate hunnamed _ _ hf hg).2
    ⟨by decide, by decide⟩ ⟨by decide, by decide⟩
  exact ⟨_, _, hscript, hcreate, hunnamed, hf, hg, hshared.2 (.inl (.index (by decide)))⟩

/-- **Different objects share a name, and no collision is needed for it.** Their identities are
equal. -/
theorem names_shared_in_ledger : ∃ script create, ledger.script {} .create = .ok script ∧
    script.batch? .create = some create ∧ (∀ c ∈ ledger.constraints, c.name = none) ∧
    ∀ pair ∈ ledgerPairs, .add pair.1 ∈ create.statements ∧ .add pair.2 ∈ create.statements ∧
      pair.1.createText ≠ pair.2.createText ∧ pair.1.name = pair.2.name ∧
      pair.1.identity = pair.2.identity := by
  refine ⟨_, _, script_eq_ok.2 ⟨_, ofSchema_ledger, rfl⟩, batch?_create rfl, by decide, ?_⟩
  have hmem : ∀ pair ∈ ledgerPairs, pair.1 ∈ ledgerObjects ∧ pair.2 ∈ ledgerObjects := by
    simp [ledgerPairs, ledgerObjects]
  have horder : indexIdentity "Line" ["Amount", "Item"] = indexIdentity "Line" ["Item", "Amount"] :=
    (indexIdentity_eq_iff (by decide) (by decide) (by decide) (by decide)).2 ⟨rfl, .swap _ _ _⟩
  have hkey : (ledgerKey ["Item"]).createText ≠ (ledgerKey ["Amount"]).createText :=
    Fragment.createText_foreignKey_ne (by decide)
  have hpairs : ∀ pair ∈ ledgerPairs,
      pair.1.createText ≠ pair.2.createText ∧ pair.1.name = pair.2.name ∧
        pair.1.identity = pair.2.identity := by
    simp only [ledgerPairs, List.forall_mem_cons, List.not_mem_nil, false_implies,
      implies_true, and_true]
    refine ⟨?_, ?_, hkey, rfl, rfl⟩
    · exact ⟨ledgerIndex_createText_ne horder (by decide), ledgerIndex_name_eq horder, horder⟩
    · have hreads := indexIdentity_line_eq
      exact ⟨ledgerIndex_createText_ne hreads (by decide), ledgerIndex_name_eq hreads, hreads⟩
  intro pair hpair
  exact ⟨add_mem_ledger (hmem pair hpair).1, add_mem_ledger (hmem pair hpair).2, hpairs pair hpair⟩

end Schema

end Interleave
