import Interleave.Proofs.Json.Form
import Interleave.Proofs.Json.Reader
import Interleave.Schema.Document

/-!
# Schema documents are read back

For each part of a schema: the JSON values that it may be written as, the decoder that reads all of
them, and that there is one. A field that has its default may be left out, and the fields may stand
in any order.

* `Schema.Written`, `Schema.WrittenAs`: the JSON values and the texts that a schema may be written
  as.
* `Schema.reads`: how much room its decoder needs. Around a column's type, five containers are open.
* `Schema.parse?_of_written`: **a schema can be written, and in whatever way it is written, it is
  read back**, as long as its column types nest no more arrays than a document has room for.
-/

namespace Interleave

open Json (Defaulted Form Optional Reads Record Required Writable ofText)

/-! ## Columns and tables -/

def DataType.toJson : DataType → Json
  | .bool => ofText "bool"
  | .int8 => ofText "int8"
  | .int16 => ofText "int16"
  | .int32 => ofText "int32"
  | .int64 => ofText "int64"
  | .float32 => ofText "float32"
  | .float64 => ofText "float64"
  | .numeric => ofText "numeric"
  | .string => ofText "string"
  | .text => ofText "text"
  | .bytes => ofText "bytes"
  | .blob => ofText "blob"
  | .date => ofText "date"
  | .timestamp => ofText "timestamp"
  | .json => ofText "json"
  | .array element => .object [(some "array", element.toJson)]

theorem DataType.reads (t : DataType) {room : ℕ} (h : t.nesting ≤ room) :
    Reads (fun t j => j = t.toJson) DataType.decode room t := by
  rintro _ rfl
  induction t generalizing room with
  | array element ih =>
    obtain ⟨room, rfl⟩ : ∃ r, room = r + 1 := ⟨room - 1, by rw [nesting] at h; omega⟩
    rw [toJson, decode, ih (Nat.le_of_succ_le_succ h), Option.map_some]
  | _ => simp [toJson, decode, ofText, Json.Decode.name, ofName?]

theorem DataType.writable (t : DataType) : Writable (fun t j => j = t.toJson) t := by
  refine ⟨_, rfl, ?_⟩
  induction t with
  | array element ih => exact .object (by simp) (by simpa using ih)
  | _ => exact .text _

def Column.Written (c : Column) : Json → Prop :=
  Record [
    ("name", Required Form.Text c.name),
    ("type", Required (fun t j => j = t.toJson) c.type),
    ("nullable", Defaulted true Form.Boolean c.nullable),
    ("length", Optional (fun n => Form.Integer n.toNat) c.length)]

theorem Column.reads (c : Column) {room : ℕ} (h : c.type.nesting ≤ room) :
    Reads Column.Written Column.decode (room + 1) c := by
  refine Json.record_of_record rfl (by decide) fun held hheld => ?_
  obtain - | ⟨hname, - | ⟨htype, - | ⟨hnullable, - | ⟨hlength, ⟨⟩⟩⟩⟩⟩ := hheld
  have hname := (Json.reads_text room c.name).required hname
  have htype := (DataType.reads c.type h).required htype
  have hnullable := (Json.reads_bool room c.nullable).defaulted hnullable
  have hlength := Json.Reads.optional (fun n _ => Json.reads_uint64 room n) rfl hlength
  simp [hname, htype, hnullable, hlength]

theorem Column.writable (c : Column) : Writable Column.Written c := by
  refine Json.exists_record ?_
  have hname := (Json.writable_text c.name).required
  have htype := c.type.writable.required
  have hnullable := (Json.writable_bool c.nullable).defaulted true
  have hlength := Json.Writable.optional fun n (_ : n ∈ c.length) => Json.writable_integer n.toNat
  simp [hname, htype, hnullable, hlength]

def Table.Written (t : Table) : Json → Prop :=
  Record [
    ("name", Required Form.Text t.name),
    ("columns", Required (Form.Items Column.Written) t.columns),
    ("primary_key", Defaulted [] (Form.Items Form.Text) t.primaryKey),
    ("parent", Optional Form.Text t.parent),
    ("on_delete_cascade", Defaulted false Form.Boolean t.cascade)]

theorem Table.reads (t : Table) {room : ℕ} (h : ∀ c ∈ t.columns, c.type.nesting ≤ room) :
    Reads Table.Written Table.decode (room + 3) t := by
  refine Json.record_of_record rfl (by decide) fun held hheld => ?_
  obtain - | ⟨hname, - | ⟨hcolumns, - | ⟨hkey, - | ⟨hparent, - | ⟨hcascade, ⟨⟩⟩⟩⟩⟩⟩ := hheld
  have hname := (Json.reads_text (room + 2) t.name).required hname
  have hcolumns := (Json.reads_list fun c hc => c.reads (h c hc)).required hcolumns
  have hkey := (Json.reads_texts (room + 1) t.primaryKey).defaulted hkey
  have hparent := Json.Reads.optional (fun name _ => Json.reads_text (room + 2) name) rfl hparent
  have hcascade := (Json.reads_bool (room + 2) t.cascade).defaulted hcascade
  simp [hname, hcolumns, hkey, hparent, hcascade]

theorem Table.writable (t : Table) : Writable Table.Written t := by
  refine Json.exists_record ?_
  have hname := (Json.writable_text t.name).required
  have hcolumns := (Json.Writable.items fun c (_ : c ∈ t.columns) => c.writable).required
  have hkey := (Json.writable_texts t.primaryKey).defaulted []
  have hparent := Json.Writable.optional fun name (_ : name ∈ t.parent) => Json.writable_text name
  have hcascade := (Json.writable_bool t.cascade).defaulted false
  simp [hname, hcolumns, hkey, hparent, hcascade]

/-! ## Constraints -/

def Constraint.Kind.Written : Kind → Json → Prop
  | .unique => Record [("type", Required Form.Text "unique")]
  | .index => Record [("type", Required Form.Text "index")]
  | .foreignKey references referencedColumns =>
    Record [
      ("type", Required Form.Text "foreign_key"),
      ("references", Required Form.Text references),
      ("referenced_columns", Defaulted [] (Form.Items Form.Text) referencedColumns)]
  | .check expression tables =>
    Record [
      ("type", Required Form.Text "check"),
      ("expression", Required Form.Text expression),
      ("tables", Defaulted [] (Form.Items Form.Text) tables)]

/-- What is read of a kind that holds a text and a list of texts. -/
theorem Constraint.Kind.read_of_record {kind first second text : String} {texts : List String}
    {j : Json} (room : ℕ)
    (hj : Record [("type", Required Form.Text kind), (first, Required Form.Text text),
      (second, Defaulted [] (Form.Items Form.Text) texts)] j)
    (hnodup : ["type", first, second].Nodup) :
    ∃ rest x y, Json.Decode.tagged "type" (room + 2) j = some (kind, rest) ∧
      Json.Decode.fields [first, second] rest = some [x, y] ∧
      Json.Decode.required Json.Decode.text (room + 1) x = some text ∧
      Json.Decode.defaulted [] (Json.Decode.list Json.Decode.text) (room + 1) y = some texts := by
  obtain ⟨htag, hnames⟩ := List.nodup_cons.1 hnodup
  -- the kind may stand behind the other fields, so that these are set aside first
  have hkeepable : ∀ field ∈ [(first, Required Form.Text text),
      (second, Defaulted [] (Form.Items Form.Text) texts)],
      ∀ j, field.2 (some j) → Json.Decode.isKeepable (room + 1) j = true := by
    refine List.forall_mem_cons.2 ⟨?_, List.forall_mem_singleton.2 ?_⟩
    · rintro j ⟨hj⟩
      exact Json.isKeepable_of_text (room + 1) hj
    · rintro j (_ | hj)
      exact Json.isKeepable_of_texts room hj
  obtain ⟨rest, htagged, hrest⟩ := Json.tagged_of_record (room + 1) hj htag hkeepable
  obtain ⟨_, hfields, hheld⟩ := Json.fields_of_record hrest rfl hnames
  obtain - | ⟨hfirst, - | ⟨hsecond, ⟨⟩⟩⟩ := hheld
  exact ⟨rest, _, _, htagged, hfields, (Json.reads_text (room + 1) text).required hfirst,
    (Json.reads_texts room texts).defaulted hsecond⟩

theorem Constraint.Kind.reads (kind : Kind) (room : ℕ) :
    Reads Kind.Written Kind.decode (room + 2) kind := by
  intro j hj
  cases kind with
  | unique | index =>
    obtain ⟨_, htagged, ⟨-, -⟩⟩ := Json.tagged_of_record (room + 1) hj nofun nofun
    simp [decode, htagged, Json.Decode.isEmptyKind]
  | foreignKey references referencedColumns =>
    obtain ⟨_, _, _, htagged, hfields, hreferences, hcolumns⟩ := read_of_record room hj (by decide)
    simp [decode, htagged, hfields, hreferences, hcolumns]
  | check expression tables =>
    obtain ⟨_, _, _, htagged, hfields, hexpression, htables⟩ := read_of_record room hj (by decide)
    simp [decode, htagged, hfields, hexpression, htables]

theorem Constraint.Kind.writable (kind : Kind) : Writable Kind.Written kind := by
  have htag (tag : String) := (Json.writable_text tag).required
  cases kind with
  | unique | index => exact Json.exists_record (by simp [htag])
  | foreignKey references referencedColumns =>
    have hcolumns := (Json.writable_texts referencedColumns).defaulted []
    exact Json.exists_record (by simp [htag, hcolumns])
  | check expression tables =>
    have htables := (Json.writable_texts tables).defaulted []
    exact Json.exists_record (by simp [htag, htables])

def Constraint.Written (c : Constraint) : Json → Prop :=
  Record [
    ("kind", Required Kind.Written c.kind),
    ("table", Required Form.Text c.table),
    ("columns", Defaulted [] (Form.Items Form.Text) c.columns),
    ("name", Optional Form.Text c.name)]

theorem Constraint.reads (c : Constraint) (room : ℕ) :
    Reads Constraint.Written Constraint.decode (room + 3) c := by
  refine Json.record_of_record rfl (by decide) fun held hheld => ?_
  obtain - | ⟨hkind, - | ⟨htable, - | ⟨hcolumns, - | ⟨hname, ⟨⟩⟩⟩⟩⟩ := hheld
  have hkind := (c.kind.reads room).required hkind
  have htable := (Json.reads_text (room + 2) c.table).required htable
  have hcolumns := (Json.reads_texts (room + 1) c.columns).defaulted hcolumns
  have hname := Json.Reads.optional (fun name _ => Json.reads_text (room + 2) name) rfl hname
  simp [hkind, htable, hcolumns, hname]

theorem Constraint.writable (c : Constraint) : Writable Constraint.Written c := by
  refine Json.exists_record ?_
  have hkind := c.kind.writable.required
  have htable := (Json.writable_text c.table).required
  have hcolumns := (Json.writable_texts c.columns).defaulted []
  have hname := Json.Writable.optional fun name (_ : name ∈ c.name) => Json.writable_text name
  simp [hkind, htable, hcolumns, hname]

/-! ## Sequences -/

def Strategy.toJson : Strategy → Json
  | .sequential => ofText "sequential"
  | .bitReversed => ofText "bit_reversed"

theorem Strategy.reads (s : Strategy) (room : ℕ) :
    Reads (fun s j => j = s.toJson) (Json.Decode.name Strategy.ofName?) room s := by
  rintro _ rfl
  cases s <;> rfl

theorem Strategy.writable (s : Strategy) : Writable (fun s j => j = s.toJson) s := by
  cases s <;> exact ⟨_, rfl, .text _⟩

def Sequence.Written (s : Sequence) : Json → Prop :=
  Record [
    ("name", Required Form.Text s.name),
    ("table", Optional Form.Text s.table),
    ("initial_value", Defaulted 1 (fun n => Form.Integer n.toInt) s.initialValue),
    ("strategy", Defaulted .sequential (fun s j => j = s.toJson) s.strategy)]

theorem Sequence.reads (s : Sequence) (room : ℕ) :
    Reads Sequence.Written Sequence.decode (room + 1) s := by
  refine Json.record_of_record rfl (by decide) fun held hheld => ?_
  obtain - | ⟨hname, - | ⟨htable, - | ⟨hvalue, - | ⟨hstrategy, ⟨⟩⟩⟩⟩⟩ := hheld
  have hname := (Json.reads_text room s.name).required hname
  have htable := Json.Reads.optional (fun name _ => Json.reads_text room name) rfl htable
  have hvalue := (Json.reads_int64 room s.initialValue).defaulted hvalue
  have hstrategy := (s.strategy.reads room).defaulted hstrategy
  simp [hname, htable, hvalue, hstrategy]

theorem Sequence.writable (s : Sequence) : Writable Sequence.Written s := by
  refine Json.exists_record ?_
  have hname := (Json.writable_text s.name).required
  have htable := Json.Writable.optional fun name (_ : name ∈ s.table) => Json.writable_text name
  have hvalue : Writable (fun n => Form.Integer n.toInt) s.initialValue :=
    Json.writable_integer s.initialValue.toInt
  have hvalue := hvalue.defaulted 1
  have hstrategy := s.strategy.writable.defaulted .sequential
  simp [hname, htable, hvalue, hstrategy]

/-! ## Schemas -/

namespace Schema

/-- The JSON values that a schema may be written as. -/
def Written (s : Schema) : Json → Prop :=
  Record [
    ("tables", Required (Form.Items Table.Written) s.tables),
    ("constraints", Defaulted [] (Form.Items Constraint.Written) s.constraints),
    ("sequences", Defaulted [] (Form.Items Sequence.Written) s.sequences)]

/-- The texts that a schema may be written as. -/
def WrittenAs (s : Schema) (text : String) : Prop :=
  ∃ j, s.Written j ∧ j.WrittenAs text

theorem reads (s : Schema) {room : ℕ} (h : ∀ t ∈ s.tables, ∀ c ∈ t.columns, c.type.nesting ≤ room) :
    Reads Schema.Written Schema.decode (room + 5) s := by
  refine Json.record_of_record rfl (by decide) fun held hheld => ?_
  obtain - | ⟨htables, - | ⟨hconstraints, - | ⟨hsequences, ⟨⟩⟩⟩⟩ := hheld
  have htables := (Json.reads_list fun t ht => t.reads (h t ht)).required htables
  have hconstraints := (Json.reads_list fun c _ => c.reads room).defaulted hconstraints
  have hsequences := (Json.reads_list fun s _ => s.reads (room + 2)).defaulted hsequences
  simp [htables, hconstraints, hsequences]

theorem writable (s : Schema) : Writable Schema.Written s := by
  refine Json.exists_record ?_
  have htables := (Json.Writable.items fun t (_ : t ∈ s.tables) => t.writable).required
  have hconstraints :=
    (Json.Writable.items fun c (_ : c ∈ s.constraints) => c.writable).defaulted []
  have hsequences := (Json.Writable.items fun q (_ : q ∈ s.sequences) => q.writable).defaulted []
  simp [htables, hconstraints, hsequences]

/-- **A schema can be written, and in whatever way it is written, it is read back.** -/
theorem parse?_of_written (s : Schema)
    (hnesting : ∀ t ∈ s.tables, ∀ c ∈ t.columns, c.type.nesting ≤ 122) :
    (∃ text, s.WrittenAs text) ∧ ∀ text, s.WrittenAs text → parse? text = some s := by
  constructor
  · obtain ⟨j, hj, hplain⟩ := s.writable
    exact ⟨j.pretty, j, hj, Json.writtenAs_pretty hplain⟩
  · rintro text ⟨j, hj, htext⟩
    rw [parse?, Json.parse?_of_writtenAs htext]
    -- of the containers that may be open, five stand around a type
    exact s.reads hnesting j hj

/-- The longest length, the least first value, and a type in a type. -/
def tickets : Schema where
  tables := [{
    name := "Ticket"
    columns := [
      { name := "Seats", type := .array (.array .string), nullable := false },
      { name := "Holder", type := .string, length := some 18446744073709551615 }] }]
  sequences := [
    { name := "Ticket", initialValue := -9223372036854775808, strategy := .bitReversed }]

theorem parse?_of_written_tickets : (∀ t ∈ tickets.tables, ∀ c ∈ t.columns, c.type.nesting ≤ 122) ∧
    (∃ text, tickets.WrittenAs text) ∧
      ∀ text, tickets.WrittenAs text → parse? text = some tickets :=
  have hnesting : ∀ t ∈ tickets.tables, ∀ c ∈ t.columns, c.type.nesting ≤ 122 := by decide
  ⟨hnesting, tickets.parse?_of_written hnesting⟩

example :
    parse?
      ("\x7b\"sequences\": [], \"tables\": " ++
        "[\x7b\"columns\": [], \"name\": \"\\ud83c\\uDFAB\"\x7d]\x7d") =
    some { tables := [{ name := "🎫" }] } := by
  cbv

end Schema

end Interleave
