import Interleave.Proofs.Hierarchy.Key
import Interleave.Proofs.TargetType

/-!
# What the text that creates a table tells

* `ShownColumn`, `PlacedTable.shownColumns`: a column as far as the text shows it.
* `ShownColumn.legible`: such a column can be read off inside the list of columns.
* `PlacedTable.interleaving_eq_iff`: the clause at the end tells the parent, and for a child whether
  it cascades.
* `PlacedTable.createText_eq_iff`: so the text tells the table, if the names in it are identifiers.
* `createText_eq_iff_of_ofTables`: **in layouts of tables with such names**, placed tables have one
  text exactly if the target cannot tell them apart.
-/

namespace Interleave

open Text Hierarchy

/-- A column as far as the text that creates its table shows it. -/
structure ShownColumn where
  name : String
  /-- The type as it is written. -/
  token : String
  /-- `not null` is written. -/
  mandatory : Bool
deriving DecidableEq

namespace ShownColumn

def text (c : ShownColumn) : String :=
  c.name ++ " " ++ c.token ++ (if c.mandatory then " not null" else "")

/-- The name is an identifier, and the token is one of a type. -/
structure Plain (c : ShownColumn) : Prop where
  name : Identifier c.name
  typed : ∃ t : TargetType, t.token = c.token

variable {c : ShownColumn}

/-- Inside a list, it can be told whether `not null` is written. -/
theorem mandatory_append_eq_iff {m m' : Bool} {r r' : String} (hr : GoesOn r) (hr' : GoesOn r') :
    (if m then " not null" else "") ++ r = (if m' then " not null" else "") ++ r' ↔
      m = m' ∧ r = r' := by
  have hword : ∀ {r s : String}, GoesOn r → r ≠ " not null" ++ s := by
    rintro r s hr rfl
    have hblank : Begins ' ' (" not null" ++ s) := Begins.append (by decide) s
    rcases hr with hr | hr
    · exact absurd (hr.eq hblank) (by decide)
    · exact absurd (hr.eq hblank) (by decide)
  cases m with
  | false =>
    cases m' with
    | false => simp
    | true => simpa using hword hr
  | true =>
    cases m' with
    | false => simpa using (hword hr').symm
    | true => simp

/-- **A column can be read off** inside the list of columns. -/
theorem legible : Legible text Plain GoesOn := by
  rintro ⟨name, token, mandatory⟩ ⟨name', token', mandatory'⟩ r r' ⟨hname, t, rfl⟩
    ⟨hname', t', rfl⟩ hr hr' h
  have hblank : ∀ rest, BreaksOff isIdentifierChar (" " ++ rest) :=
    BreaksOff.append (by decide) (by decide)
  simp only [text, String.append_assoc] at h
  rw [hname.append_eq_iff hname' (hblank _) (hblank _), String.append_right_inj,
    TargetType.token_append_eq_iff, mandatory_append_eq_iff hr hr'] at h
  obtain ⟨rfl, rfl, rfl, rfl⟩ := h
  exact ⟨rfl, rfl⟩

theorem not_goesOn (hc : c.Plain) (r : String) : ¬ GoesOn (c.text ++ r) := by
  rw [text, String.append_assoc, String.append_assoc, String.append_assoc]
  exact hc.name.not_goesOn _

end ShownColumn

/-- The table and its columns have identifiers for names. -/
structure Table.Plain (t : Table) : Prop where
  name : Identifier t.name
  columns : ∀ c ∈ t.columns, Identifier c.name

instance (t : Table) : Decidable t.Plain :=
  decidable_of_iff (Identifier t.name ∧ ∀ c ∈ t.columns, Identifier c.name)
    ⟨fun h => ⟨h.1, h.2⟩, fun h => ⟨h.1, h.2⟩⟩

namespace PlacedTable

variable {p p' : PlacedTable}

/-- The columns in declared order. Those of the key are mandatory, whatever they declare. -/
def shownColumns (p : PlacedTable) : List ShownColumn :=
  p.table.columns.map fun c => ⟨c.name, c.targetType.token, p.isKeyColumn c.name || !c.nullable⟩

/-- All names in the text are identifiers. -/
structure Plain (p : PlacedTable) : Prop where
  table : p.table.Plain
  key : ∀ column ∈ p.key, Identifier column
  parent : ∀ parent, p.table.parent = some parent → Identifier parent

theorem Plain.name (hp : p.Plain) : Identifier p.name :=
  hp.table.name

theorem Plain.plain_shownColumns (hp : p.Plain) : ∀ c ∈ p.shownColumns, c.Plain := by
  intro c hc
  obtain ⟨column, hcolumn, rfl⟩ := List.mem_map.1 hc
  exact ⟨hp.table.columns column hcolumn, column.targetType, rfl⟩

/-- The text, piece by piece. -/
theorem createText_shown (p : PlacedTable) : p.createText = "create table " ++ p.name ++
    " (" ++ ",".intercalate (p.shownColumns.map ShownColumn.text) ++ ")" ++
    " PRIMARY KEY (" ++ ",".intercalate p.key ++ ")" ++ p.interleaving := by
  have hcolumns : (p.table.columns.map fun c => c.declaration (p.isKeyColumn c.name)) =
      p.shownColumns.map ShownColumn.text := by
    rw [shownColumns, List.map_map]
    rfl
  unfold createText
  rw [hcolumns]

theorem createText_eq (p : PlacedTable) : p.createText = "create table " ++ (p.name ++ (" (" ++
    (listed ShownColumn.text p.shownColumns ++
      (") PRIMARY KEY (" ++ (listed id p.key ++ (")" ++ p.interleaving)))))) := by
  have hclose : ∀ rest : String, ") PRIMARY KEY (" ++ rest = ")" ++ (" PRIMARY KEY (" ++ rest) :=
    fun rest => by
      rw [← String.append_assoc]
      rfl
  rw [createText_shown, hclose, listed, listed, List.map_id]
  simp only [String.append_assoc]

theorem interleaving_of_root (h : p.table.parent = none) : p.interleaving = "" := by
  rw [interleaving, h]

theorem interleaving_of_child {parent : String} (h : p.table.parent = some parent) :
    p.interleaving = ", INTERLEAVE IN PARENT " ++
      (parent ++ if p.table.cascade then " ON DELETE CASCADE" else "") := by
  simp only [interleaving, h, String.append_assoc]

/-- **The clause at the end** tells the parent, and for a child whether it cascades. -/
theorem interleaving_eq_iff (hp : p.Plain) (hp' : p'.Plain) : p.interleaving = p'.interleaving ↔
    p.table.parent = p'.table.parent ∧
      (p.table.parent ≠ none → p.table.cascade = p'.table.cascade) := by
  have hclause : ∀ rest, ", INTERLEAVE IN PARENT " ++ rest ≠ "" := by
    intro rest h
    nomatch (String.append_eq_empty_iff.1 h).1
  cases hparent : p.table.parent with
  | none =>
    cases hparent' : p'.table.parent with
    | none => simp [interleaving_of_root hparent, interleaving_of_root hparent']
    | some parent' =>
      simp [interleaving_of_root hparent, interleaving_of_child hparent', (hclause _).symm]
  | some parent =>
    cases hparent' : p'.table.parent with
    | none => simp [interleaving_of_child hparent, interleaving_of_root hparent', hclause]
    | some parent' =>
      have hend : ∀ cascade : Bool, BreaksOff isIdentifierChar
          (if cascade then " ON DELETE CASCADE" else "") := by decide
      have hcascade : ∀ cascade cascade' : Bool, (if cascade then " ON DELETE CASCADE" else "") =
          (if cascade' then " ON DELETE CASCADE" else "") ↔ cascade = cascade' := by decide
      rw [interleaving_of_child hparent, interleaving_of_child hparent', String.append_right_inj,
        (hp.parent parent hparent).append_eq_iff (hp'.parent parent' hparent') (hend _) (hend _),
        hcascade]
      simp

/-- **The text tells the table**: read from its beginning, each piece of it is found in one way
only. -/
theorem createText_eq_iff (hp : p.Plain) (hp' : p'.Plain) : p.createText = p'.createText ↔
    p.name = p'.name ∧ p.shownColumns = p'.shownColumns ∧ p.key = p'.key ∧
      p.table.parent = p'.table.parent ∧
      (p.table.parent ≠ none → p.table.cascade = p'.table.cascade) := by
  have hcolumns : Legible (listed ShownColumn.text) (fun l => ∀ c ∈ l, c.Plain) (Begins ')') :=
    ShownColumn.legible.list fun _ r hc => ShownColumn.not_goesOn hc r
  have hkey : Legible (listed id) (fun l => ∀ column ∈ l, Identifier column) (Begins ')') :=
    legible_identifier.list fun _ r hcolumn => hcolumn.not_goesOn r
  have hblank : ∀ rest, BreaksOff isIdentifierChar (" (" ++ rest) :=
    BreaksOff.append (by decide) (by decide)
  have hclose : ∀ rest, Begins ')' (") PRIMARY KEY (" ++ rest) := Begins.append (by decide)
  have hend : ∀ rest, Begins ')' (")" ++ rest) := Begins.append (by decide)
  rw [createText_eq, createText_eq, String.append_right_inj,
    hp.name.append_eq_iff hp'.name (hblank _) (hblank _), String.append_right_inj,
    hcolumns.append_eq_iff hp.plain_shownColumns hp'.plain_shownColumns (hclose _) (hclose _),
    String.append_right_inj, hkey.append_eq_iff hp.key hp'.key (hend _) (hend _),
    String.append_right_inj, interleaving_eq_iff hp hp']

end PlacedTable

namespace Hierarchy

variable {tables tables' : List Table} {layout layout' : Layout} {p p' : PlacedTable}

/-- A full key consists of declared columns, and a parent is one of the tables. -/
theorem plain_of_ofTables (h : Layout.ofTables tables = .ok layout) (hplain : ∀ t ∈ tables, t.Plain)
    (hp : p ∈ layout.order) : p.Plain := by
  have ht : p.table ∈ tables := (built_of_ofTables h).2.mem_iff.1 (List.mem_map_of_mem hp)
  refine ⟨hplain _ ht, fun column hcolumn => ?_, fun parent hparent => ?_⟩
  · obtain ⟨c, hc, rfl⟩ := (fullKey_of_mem h hp).declared column hcolumn
    exact (hplain _ ht).columns c hc
  · obtain ⟨a, ha, rfl⟩ := (sound_of_ofTables h).parents _ ht parent hparent
    exact (hplain a ha).name

/-- **What the text that creates a table tells**: its name, its columns with their types and whether
they are mandatory, its full key, its parent, and for a child whether it cascades. It tells no more.
-/
theorem createText_eq_iff_of_ofTables (h : Layout.ofTables tables = .ok layout)
    (h' : Layout.ofTables tables' = .ok layout') (hplain : ∀ t ∈ tables, t.Plain)
    (hplain' : ∀ t ∈ tables', t.Plain) (hp : p ∈ layout.order) (hp' : p' ∈ layout'.order) :
    p.createText = p'.createText ↔
      p.name = p'.name ∧ p.shownColumns = p'.shownColumns ∧ p.key = p'.key ∧
        p.table.parent = p'.table.parent ∧
        (p.table.parent ≠ none → p.table.cascade = p'.table.cascade) :=
  PlacedTable.createText_eq_iff (plain_of_ofTables h hplain hp) (plain_of_ofTables h' hplain' hp')

/-- A shipment whose number is of this type. -/
def shipment (number : DataType) : Table where
  name := "Shipment"
  columns := [{ name := "Shipment_Id", type := number }]
  primaryKey := ["Shipment_Id"]

def parcel (cascade : Bool) : Table where
  name := "Parcel"
  columns := [
    { name := "Shipment_Id", type := .int64 },
    { name := "Parcel_Id", type := .bytes, length := some 16 },
    { name := "Labels", type := .array (.array .string), nullable := false }]
  primaryKey := ["Parcel_Id"]
  parent := some "Shipment"
  cascade := cascade

/-- The target has one integer type, so it cannot tell the shipments apart. The parcels differ in
one flag, which shows. -/
theorem createText_eq_iff_of_shipments : ∃ layout layout' q p q' p',
    Layout.ofTables [shipment .int32, parcel true] = .ok layout ∧
    Layout.ofTables [parcel false, shipment .int64] = .ok layout' ∧
    (∀ t ∈ [shipment .int32, parcel true], t.Plain) ∧
    (∀ t ∈ [parcel false, shipment .int64], t.Plain) ∧
    layout.order = [q, p] ∧ layout'.order = [q', p'] ∧ q.table ≠ q'.table ∧
    q.createText = q'.createText ∧
    p.shownColumns = p'.shownColumns ∧ p.key = p'.key ∧ p.createText ≠ p'.createText := by
  obtain ⟨layout, h, horder⟩ :=
    exists_ok_of_any (x := Layout.ofTables [shipment .int32, parcel true])
      (p := fun layout => layout.order =
        [⟨shipment .int32, ["Shipment_Id"]⟩, ⟨parcel true, ["Shipment_Id", "Parcel_Id"]⟩])
      (by decide +kernel)
  obtain ⟨layout', h', horder'⟩ :=
    exists_ok_of_any (x := Layout.ofTables [parcel false, shipment .int64])
      (p := fun layout => layout.order =
        [⟨shipment .int64, ["Shipment_Id"]⟩, ⟨parcel false, ["Shipment_Id", "Parcel_Id"]⟩])
      (by decide +kernel)
  have horder := of_decide_eq_true horder
  have horder' := of_decide_eq_true horder'
  have hplain : ∀ t ∈ [shipment .int32, parcel true], t.Plain := by decide
  have hplain' : ∀ t ∈ [parcel false, shipment .int64], t.Plain := by decide
  have hshipments := createText_eq_iff_of_ofTables h h' hplain hplain'
    (horder ▸ List.mem_cons_self) (horder' ▸ List.mem_cons_self)
  have hparcels := createText_eq_iff_of_ofTables h h' hplain hplain'
    (horder ▸ List.mem_cons_of_mem _ List.mem_cons_self)
    (horder' ▸ List.mem_cons_of_mem _ List.mem_cons_self)
  refine ⟨layout, layout', _, _, _, _, h, h', hplain, hplain', horder, horder', by decide,
    hshipments.2 (by decide), by decide, by decide, fun htext => ?_⟩
  obtain ⟨-, -, -, -, hcascade⟩ := hparcels.1 htext
  exact absurd (hcascade (by decide)) (by decide)

end Hierarchy

end Interleave
