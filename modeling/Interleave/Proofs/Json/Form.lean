import Interleave.Json.Decode
import Interleave.Proofs.Except
import Interleave.Proofs.Json.Writer
import Mathlib.Data.List.Nodup
import Mathlib.Data.List.Perm.Basic

/-!
# Forms of values

What a decoder has to read is said without the decoder: by the forms that a value may be written in.

* `Form`: for each value of a type, the JSON values that it may be written as.
* `Required`, `Defaulted`, `Optional`: what a field may hold. One with its default may be left out.
* `Record`: an object of named fields in any order.
* `Reads`: a decoder reads a value from all of its forms. There is a lemma for each way to build a
  decoder.
* `fields_of_record`: **the fields of a record are found in whatever order they are written.**
* `tagged_of_record`: **so is the kind, and what is left is a record of the other fields.**
* `Writable`: there is a form that can be written out.
-/

namespace Interleave.Json

/-! ## Forms -/

/-- For each value of a type, the JSON values that it may be written as. -/
abbrev Form (α : Type) := α → Json → Prop

variable {α : Type}

inductive Form.Text (text : String) : Json → Prop
  | string : Form.Text text (ofText text)

inductive Form.Boolean (b : Bool) : Json → Prop
  | bool : Form.Boolean b (.bool b)

inductive Form.Integer (n : ℤ) : Json → Prop
  | number : Form.Integer n (.number (.ofInt n))

inductive Form.Items (form : Form α) (as : List α) : Json → Prop
  | array {items : List Json} (h : List.Forall₂ form as items) : Form.Items form as (.array items)

/-- A field that is always written. -/
inductive Required (form : Form α) (a : α) : Option Json → Prop
  | written {j : Json} (h : form a j) : Required form a (some j)

/-- A field that may be left out where it has its default. -/
inductive Defaulted (default : α) (form : Form α) (a : α) : Option Json → Prop
  | omitted (h : a = default) : Defaulted default form a none
  | written {j : Json} (h : form a j) : Defaulted default form a (some j)

/-- A field that is written if and only if there is a value. -/
inductive Optional (form : Form α) : Option α → Option Json → Prop
  | omitted : Optional form none none
  | written {a : α} {j : Json} (h : form a j) : Optional form (some a) (some j)

/-- The members of an object, from what each of its fields holds. -/
def present (held : List (String × Option Json)) : List (Option String × Json) :=
  held.filterMap fun (name, j) => j.map (some name, ·)

/-- Each field holds what it may hold. -/
def Holds (fields : List (String × (Option Json → Prop))) (held : List (String × Option Json)) :
    Prop :=
  List.Forall₂ (fun field h => h.1 = field.1 ∧ field.2 h.2) fields held

/-- An object of named fields. The members may stand in any order. -/
inductive Record (fields : List (String × (Option Json → Prop))) : Json → Prop
  | object {held : List (String × Option Json)} {members : List (Option String × Json)}
    (hheld : Holds fields held) (hmembers : members.Perm (present held)) :
    Record fields (.object members)

/-- The decoder reads the value from all of its forms. -/
def Reads (form : Form α) (decode : Decoder α) (room : ℕ) (a : α) : Prop :=
  ∀ j, form a j → decode room j = some a

/-! ## Plain values -/

section Values

variable {form : Form α} {decode : Decoder α} {default a : α} {room : ℕ} {field : Option Json}

theorem reads_text (room : ℕ) (text : String) : Reads Form.Text Decode.text room text := by
  rintro _ ⟨⟩
  rfl

theorem reads_bool (room : ℕ) (b : Bool) : Reads Form.Boolean Decode.bool room b := by
  rintro _ ⟨⟩
  rfl

theorem reads_integer (room : ℕ) {low high n : ℤ} (hlow : low ≤ n) (hhigh : n < high) :
    Reads Form.Integer (Decode.integer low high) room n := by
  rintro _ ⟨⟩
  simp [Decode.integer, Literal.integer?_ofInt, hlow, hhigh]

theorem reads_int64 (room : ℕ) (n : Int64) :
    Reads (fun n => Form.Integer n.toInt) Decode.int64 room n := by
  intro j hj
  have hhigh : n.toInt < Int64.maxValue.toInt + 1 := Int.lt_add_one_of_le n.toInt_le
  have hread := reads_integer room n.minValue_le_toInt hhigh j hj
  rw [Decode.int64, hread, Option.map_some, Int64.ofInt_toInt]

theorem reads_uint64 (room : ℕ) (n : UInt64) :
    Reads (fun n => Form.Integer n.toNat) Decode.uint64 room n := by
  intro j hj
  have hhigh : (n.toNat : ℤ) < UInt64.size := by exact_mod_cast n.toNat_lt_size
  have hread := reads_integer room (Int.natCast_nonneg n.toNat) hhigh j hj
  rw [Decode.uint64, hread, Option.map_some, Int.toNat_natCast, UInt64.ofNat_toNat]

theorem reads_list {as : List α} (h : ∀ a ∈ as, Reads form decode room a) :
    Reads (Form.Items form) (Decode.list decode) (room + 1) as := by
  rintro _ ⟨hitems⟩
  change List.mapM (decode room) _ = some as
  induction hitems with
  | nil => rfl
  | @cons a j as items hfirst _ ih =>
    obtain ⟨ha, has⟩ := List.forall_mem_cons.1 h
    simp [List.mapM_cons, ha j hfirst, ih has]

theorem reads_texts (room : ℕ) (texts : List String) :
    Reads (Form.Items Form.Text) (Decode.list Decode.text) (room + 1) texts :=
  reads_list fun text _ => reads_text room text

theorem isKeepable_of_text (room : ℕ) {text : String} {j : Json} (h : Form.Text text j) :
    Decode.isKeepable room j = true := by
  cases h
  simp [ofText, Decode.isKeepable]

theorem isKeepable_of_texts (room : ℕ) {texts : List String} {j : Json}
    (h : Form.Items Form.Text texts j) :
    Decode.isKeepable (room + 1) j = true := by
  obtain ⟨hitems⟩ := h
  rw [Decode.isKeepable, List.all_eq_true]
  intro j hj
  obtain ⟨text, -, htext⟩ := exists_of_forall₂ hitems.flip j hj
  exact isKeepable_of_text room htext

theorem Reads.required (h : Reads form decode room a) (hfield : Required form a field) :
    Decode.required decode room field = some a := by
  obtain ⟨hj⟩ := hfield
  exact h _ hj

theorem Reads.defaulted (h : Reads form decode room a) (hfield : Defaulted default form a field) :
    Decode.defaulted default decode room field = some a := by
  cases hfield with
  | omitted hdefault => rw [Decode.defaulted, hdefault]
  | written hj => exact h _ hj

/-- A value that is there is not taken for nothing. -/
theorem Reads.optional {o : Option α} (h : ∀ a ∈ o, Reads form decode room a)
    (hnull : decode room .null = none) (hfield : Optional form o field) :
    Decode.defaulted none (Decode.nullable decode) room field = some o := by
  cases hfield with
  | omitted => rfl
  | @written a j hj =>
    have hread : decode room j = some a := h a rfl j hj
    cases j with
    | null => rw [hnull] at hread; nomatch hread
    | _ => rw [Decode.defaulted, Decode.nullable, hread, Option.map_some]; nofun

end Values

/-! ## Records -/

section Records

variable {held : List (String × Option Json)} {members : List (Option String × Json)}
  {key : Option String}

theorem mem_present_iff {j : Json} :
    (key, j) ∈ present held ↔ ∃ name, key = some name ∧ (name, some j) ∈ held := by
  simp only [present, List.mem_filterMap, Option.map_eq_some_iff, Prod.mk.injEq]
  constructor
  · rintro ⟨⟨name, _⟩, hmem, _, rfl, rfl, rfl⟩
    exact ⟨name, rfl, hmem⟩
  · rintro ⟨name, rfl, hmem⟩
    exact ⟨_, hmem, j, rfl, rfl, rfl⟩

theorem nodup_present (h : (held.map Prod.fst).Nodup) : ((present held).map Prod.fst).Nodup := by
  have hsublist : ((present held).map Prod.fst).Sublist ((held.map Prod.fst).map some) := by
    clear h
    induction held with
    | nil => exact List.Sublist.slnil
    | cons field held ih =>
      obtain ⟨name, _ | j⟩ := field
      · exact ih.cons _
      · exact ih.cons_cons _
  exact hsublist.nodup (h.map fun _ _ => Option.some.inj)

/-- Under distinct keys, a key has the value of its member. -/
theorem lookup_eq_some_iff_mem (h : (members.map Prod.fst).Nodup) {j : Json} :
    members.lookup key = some j ↔ (key, j) ∈ members := by
  induction members with
  | nil => simp
  | cons member members ih =>
    obtain ⟨hfirst, hmembers⟩ := List.nodup_cons.1 h
    obtain ⟨key', j'⟩ := member
    by_cases hkey : key = key'
    · subst hkey
      have hnot : (key, j) ∉ members := fun hmem => hfirst (List.mem_map.2 ⟨_, hmem, rfl⟩)
      simp [hnot, eq_comm]
    · rw [List.lookup_cons, beq_false_of_ne hkey, ih hmembers, List.mem_cons]
      simp [hkey]

/-- Each field is found by its name, in whatever order the members stand. -/
theorem fields_of_perm (hnodup : (held.map Prod.fst).Nodup) (h : members.Perm (present held)) :
    Decode.fields (held.map Prod.fst) (.object members) = some (held.map Prod.snd) := by
  have hkeys : (members.map Prod.fst).Nodup := (h.map Prod.fst).nodup_iff.2 (nodup_present hnodup)
  have htexts : members.all (·.1.isSome) = true := by
    rw [List.all_eq_true]
    rintro ⟨key, j⟩ hmem
    obtain ⟨name, rfl, -⟩ := mem_present_iff.1 (h.mem_iff.1 hmem)
    rfl
  have honce : (held.map Prod.fst).all (fun name => members.countP (·.1 == some name) ≤ 1) =
      true := by
    rw [List.all_eq_true]
    intro name _
    have hcount := List.nodup_iff_count_le_one.1 hkeys (some name)
    rw [List.count, List.countP_map] at hcount
    exact decide_eq_true hcount
  have hlookup : ∀ h ∈ held, members.lookup (some h.1) = h.2 := by
    rintro ⟨name, _ | j⟩ hmem
    · -- no member has the key, for the name is the key's only one in the record
      refine Option.eq_none_iff_forall_ne_some.2 fun j hj => ?_
      obtain ⟨_, ⟨⟩, hmem'⟩ := mem_present_iff.1 (h.mem_iff.1 ((lookup_eq_some_iff_mem hkeys).1 hj))
      nomatch List.inj_on_of_nodup_map hnodup hmem hmem' rfl
    · exact (lookup_eq_some_iff_mem hkeys).2 (h.mem_iff.2 (mem_present_iff.2 ⟨name, rfl, hmem⟩))
  rw [Decode.fields, htexts, honce, List.map_map]
  refine congrArg some (List.map_congr_left hlookup)

/-- The kind is found wherever its member stands, and the others are left as they are. -/
theorem tagged_of_perm {tag kind : String} {room : ℕ} (htag : tag ∉ held.map Prod.fst)
    (hkeepable : ∀ member ∈ present held, Decode.isKeepable room member.2 = true)
    (h : members.Perm ((some tag, ofText kind) :: present held)) :
    ∃ others, Decode.tagged tag (room + 1) (.object members) = some (kind, .object others) ∧
      others.Perm (present held) := by
  have hnames : ∀ key j, (key, j) ∈ present held → key ≠ some tag := by
    rintro _ j hmem rfl
    obtain ⟨_, ⟨⟩, hmem⟩ := mem_present_iff.1 hmem
    exact htag (List.mem_map.2 ⟨_, hmem, rfl⟩)
  have hkept : Decode.isKeepable (room + 1) (.object members) = true := by
    rw [Decode.isKeepable, h.all_eq, List.all_cons, Bool.and_eq_true, List.all_eq_true]
    refine ⟨isKeepable_of_text room .string, ?_⟩
    rintro ⟨_, j⟩ hmem
    obtain ⟨_, rfl, -⟩ := mem_present_iff.1 hmem
    simpa using hkeepable _ hmem
  -- the kind is the only member of its name, so one filter finds it and the other finds the rest
  have hkind : members.filter (·.1 == some tag) = [(some tag, ofText kind)] := by
    refine List.perm_singleton.1 ((h.filter _).trans (.of_eq ?_))
    simpa using hnames
  have hothers : (members.filter (·.1 != some tag)).Perm (present held) := by
    refine (h.filter _).trans (.of_eq ?_)
    simpa using hnames
  refine ⟨_, ?_, hothers⟩
  simp [Decode.tagged, hkept, hkind, ofText]

variable {fields : List (String × (Option Json → Prop))} {j : Json}

theorem Holds.names (h : Holds fields held) : held.map Prod.fst = fields.map Prod.fst := by
  unfold Holds at h
  induction h with
  | nil => rfl
  | cons hfirst _ ih => rw [List.map_cons, List.map_cons, hfirst.1, ih]

/-- What stands in a record is what one of the fields may hold. -/
theorem Holds.exists_field (h : Holds fields held) {member : Option String × Json}
    (hmem : member ∈ present held) :
    ∃ field ∈ fields, field.2 (some member.2) := by
  obtain ⟨_, -, hheld⟩ := mem_present_iff.1 hmem
  obtain ⟨field, hfield, -, hj⟩ := exists_of_forall₂ h.flip _ hheld
  exact ⟨field, hfield, hj⟩

/-- **The fields of a record are found in whatever order they are written.** -/
theorem fields_of_record {names : List String} (hrecord : Record fields j)
    (hnames : fields.map Prod.fst = names) (hnodup : names.Nodup) :
    ∃ held, Decode.fields names j = some held ∧
      List.Forall₂ (fun field h => field.2 h) fields held := by
  cases hrecord with
  | object hheld hmembers =>
    obtain rfl := hheld.names.trans hnames
    exact ⟨_, fields_of_perm hnodup hmembers,
      List.forall₂_map_right_iff.2 (hheld.imp fun _ _ h => h.2)⟩

/-- A value is read from a record if it is made from whatever the fields may hold. -/
theorem record_of_record {α : Type} {names : List String}
    {build : (room : ℕ) → List (Option Json) → Option α} {room : ℕ} {a : α}
    (hnames : fields.map Prod.fst = names) (hnodup : names.Nodup)
    (hbuild : ∀ held, List.Forall₂ (fun field h => field.2 h) fields held →
      build room held = some a) :
    ∀ j, Record fields j → Decode.record names build (room + 1) j = some a := by
  intro j hrecord
  obtain ⟨held, hfields, hheld⟩ := fields_of_record hrecord hnames hnodup
  rw [Decode.record, hfields, Option.bind_some, hbuild held hheld]

/-- **The kind is found wherever it is written, and what is left is a record of the other fields.**
-/
theorem tagged_of_record {tag kind : String} (room : ℕ)
    (hrecord : Record ((tag, Required Form.Text kind) :: fields) j)
    (htag : tag ∉ fields.map Prod.fst)
    (hkeepable : ∀ field ∈ fields, ∀ j, field.2 (some j) → Decode.isKeepable room j = true) :
    ∃ rest, Decode.tagged tag (room + 1) j = some (kind, rest) ∧ Record fields rest := by
  obtain ⟨hheld, hmembers⟩ := hrecord
  obtain ⟨⟨name, _⟩, others, ⟨hname, ⟨⟨⟩⟩⟩, hothers, rfl⟩ := List.forall₂_cons_left_iff.1 hheld
  replace hothers : Holds fields others := hothers
  obtain rfl : name = tag := hname
  have hkept : ∀ member ∈ present others, Decode.isKeepable room member.2 = true := by
    intro member hmem
    obtain ⟨field, hfield, hj⟩ := hothers.exists_field hmem
    exact hkeepable field hfield member.2 hj
  obtain ⟨rest, htagged, hrest⟩ := tagged_of_perm (hothers.names ▸ htag) hkept hmembers
  exact ⟨.object rest, htagged, .object hothers hrest⟩

end Records

/-! ## Writing -/

/-- There is a form of the value that can be written out. -/
def Writable (form : Form α) (a : α) : Prop :=
  ∃ j, form a j ∧ Plain j

/-- There is something that the field may hold and that can be written out, if it is not left out.
-/
def Fillable (field : Option Json → Prop) : Prop :=
  ∃ held, field held ∧ ∀ j ∈ held, Plain j

section Writing

variable {form : Form α} {a : α}

theorem writable_text (text : String) : Writable Form.Text text :=
  ⟨_, .string, .text text⟩

theorem writable_bool (b : Bool) : Writable Form.Boolean b :=
  ⟨_, .bool, .bool b⟩

theorem writable_integer (n : ℤ) : Writable Form.Integer n :=
  ⟨_, .number, .integer n⟩

theorem Writable.items {as : List α} (h : ∀ a ∈ as, Writable form a) :
    Writable (Form.Items form) as := by
  obtain ⟨items, hitems, hplain⟩ : ∃ items, List.Forall₂ form as items ∧ ∀ j ∈ items, Plain j := by
    induction as with
    | nil => exact ⟨[], .nil, nofun⟩
    | cons a as ih =>
      obtain ⟨⟨j, hj, hfirst⟩, has⟩ := List.forall_mem_cons.1 h
      obtain ⟨items, hitems, hplain⟩ := ih has
      exact ⟨j :: items, .cons hj hitems, List.forall_mem_cons.2 ⟨hfirst, hplain⟩⟩
  exact ⟨_, .array hitems, .array hplain⟩

theorem writable_texts (texts : List String) : Writable (Form.Items Form.Text) texts :=
  Writable.items fun text _ => writable_text text

theorem Writable.required (h : Writable form a) : Fillable (Required form a) := by
  obtain ⟨j, hj, hplain⟩ := h
  exact ⟨some j, .written hj, by rintro _ ⟨⟩; exact hplain⟩

theorem Writable.defaulted (default : α) (h : Writable form a) :
    Fillable (Defaulted default form a) := by
  obtain ⟨j, hj, hplain⟩ := h
  exact ⟨some j, .written hj, by rintro _ ⟨⟩; exact hplain⟩

theorem Writable.optional {o : Option α} (h : ∀ a ∈ o, Writable form a) :
    Fillable (Optional form o) := by
  cases o with
  | none => exact ⟨none, .omitted, nofun⟩
  | some a =>
    obtain ⟨j, hj, hplain⟩ := h a rfl
    exact ⟨some j, .written hj, by rintro _ ⟨⟩; exact hplain⟩

theorem exists_record {fields : List (String × (Option Json → Prop))}
    (h : ∀ field ∈ fields, Fillable field.2) :
    ∃ j, Record fields j ∧ Plain j := by
  obtain ⟨held, hheld, hplain⟩ : ∃ held, Holds fields held ∧
      ∀ field ∈ held, ∀ j ∈ field.2, Plain j := by
    induction fields with
    | nil => exact ⟨[], .nil, nofun⟩
    | cons field fields ih =>
      obtain ⟨⟨value, hvalue, hfirst⟩, hfields⟩ := List.forall_mem_cons.1 h
      obtain ⟨held, hheld, hplain⟩ := ih hfields
      exact ⟨(field.1, value) :: held, .cons ⟨rfl, hvalue⟩ hheld,
        List.forall_mem_cons.2 ⟨hfirst, hplain⟩⟩
  refine ⟨_, .object hheld (.refl _), .object ?_ ?_⟩
  · rintro ⟨key, j⟩ hmem
    obtain ⟨name, rfl, -⟩ := mem_present_iff.1 hmem
    rfl
  · rintro ⟨key, j⟩ hmem
    obtain ⟨name, -, hmem⟩ := mem_present_iff.1 hmem
    exact hplain _ hmem j rfl

end Writing

end Interleave.Json
