import Interleave.DerivedName
import Interleave.Proofs.Legible
import Mathlib.Data.List.Perm.Basic
import Mathlib.Data.String.Basic
import Mathlib.Tactic.Common

/-!
# What a derived name depends on

A derived name is a mark and a digest in base 35. The digest is of an identity, a text in which
every name is closed by a backtick.

* `base35Value_base35`, `base35_inj`: the digits of a number read back, so no two numbers are
  written alike.
* `ofIdentity_eq_iff`: **two identities share a name if they are equal or collide.**
* `Unticked`: a name without a backtick. It can be read off an identity.
* `columnsIdentity_eq_iff`: of columns, all is told but their order.
* `indexIdentity_eq_iff`, `foreignKeyIdentity_eq_iff`, `checkIdentity_eq_iff`: **what identities
  tell.**
* `names_tell`: **what the names of indexes and foreign keys tell.**
-/

namespace Interleave

open Text

namespace DerivedName

variable {a b rest rest' table table' references references' expression expression' identity
  identity' : String} {columns columns' : List String}

/-! ## Digests in base 35 -/

/-- The number that a digit of base 35 stands for. -/
def base35DigitValue (c : Char) : Nat :=
  if c.toNat < 'a'.toNat then c.toNat - '0'.toNat else c.toNat - 'a'.toNat + 10

def base35Value (text : String) : Nat :=
  Numeral.value 35 (text.toList.map base35DigitValue)

theorem base35DigitValue_base35Digit : ∀ d < 35, base35DigitValue (base35Digit d) = d := by
  decide

/-- **The digits of a number read back.** -/
theorem base35Value_base35 (n : Nat) : base35Value (base35 n) = n := by
  have hdigits : ((Numeral.digits 35 n).map base35Digit).map base35DigitValue =
      Numeral.digits 35 n := by
    rw [List.map_map]
    refine (List.map_congr_left fun d hd => ?_).trans (List.map_id _)
    exact base35DigitValue_base35Digit d (Numeral.digits_lt (by decide) d hd)
  rw [base35Value, base35, String.toList_ofList, hdigits, Numeral.value_digits]

theorem base35_inj {m n : ℕ} : base35 m = base35 n ↔ m = n := by
  refine ⟨fun h => ?_, fun h => congrArg base35 h⟩
  rw [← base35Value_base35 m, h, base35Value_base35]

/-- The digest of an identity. -/
def digest (identity : String) : Nat :=
  Md5.digest identity.toUTF8.toList

/-- The two are not equal, but their digests are. -/
def Collide (identity identity' : String) : Prop :=
  identity ≠ identity' ∧ digest identity = digest identity'

/-- Names tell digests apart. -/
theorem ofIdentity_eq_iff_digest :
    ofIdentity identity = ofIdentity identity' ↔ digest identity = digest identity' :=
  base35_inj

/-- **Two identities share a name if they are equal or collide.** -/
theorem ofIdentity_eq_iff : ofIdentity identity = ofIdentity identity' ↔
    identity = identity' ∨ Collide identity identity' := by
  rw [ofIdentity_eq_iff_digest, Collide]
  by_cases heq : identity = identity'
  · simp [heq]
  · simp [heq]

/-! ## Identities -/

/-- The character that closes a name. -/
def tick : Char := '\x60'

/-- The text has no backtick. -/
def Unticked (text : String) : Prop :=
  tick ∉ text.toList

instance (text : String) : Decidable (Unticked text) :=
  inferInstanceAs (Decidable (¬ _))

/-- A name up to its backtick can be read off. -/
theorem append_tick_eq_iff (ha : Unticked a) (hb : Unticked b) :
    a ++ ("`" ++ rest) = b ++ ("`" ++ rest') ↔ a = b ∧ rest = rest' := by
  have hrun : ∀ {text}, Unticked text → ∀ c ∈ text.toList, (c != tick) = true := fun htext c hc =>
    bne_iff_ne.2 fun htick => htext (htick ▸ hc)
  have hend : ∀ rest, BreaksOff (· != tick) ("`" ++ rest) :=
    BreaksOff.append (by decide) (by decide)
  rw [append_eq_iff_of_run (hrun ha) (hrun hb) (hend _) (hend _), String.append_right_inj]

/-- A column as it stands in an identity. -/
def columnField (column : String) : String :=
  "column`" ++ column ++ "`"

theorem join_columnField_cons (c : String) (rest : List String) :
    String.join ((c :: rest).map columnField) =
    "column`" ++ (c ++ ("`" ++ String.join (rest.map columnField))) := by
  rw [List.map_cons, String.join_cons, columnField, String.append_assoc, String.append_assoc]

theorem join_columnField_cons_ne_nil (c : String) (rest : List String) :
    String.join ((c :: rest).map columnField) ≠ String.join ([].map columnField) := by
  intro h
  rw [join_columnField_cons] at h
  have hlist := congrArg String.toList h
  rw [String.toList_append] at hlist
  nomatch hlist

/-- Listed columns can be read off one after another. -/
theorem join_columnField_eq_iff (h : ∀ c ∈ columns, Unticked c) (h' : ∀ c ∈ columns', Unticked c) :
    String.join (columns.map columnField) = String.join (columns'.map columnField) ↔
      columns = columns' := by
  induction columns generalizing columns' with
  | nil =>
    cases columns' with
    | nil => exact ⟨fun _ => rfl, fun _ => rfl⟩
    | cons c rest =>
      exact ⟨fun heq => absurd heq.symm (join_columnField_cons_ne_nil c rest),
        fun heq => (nomatch heq)⟩
  | cons c rest ih =>
    cases columns' with
    | nil =>
      exact ⟨fun heq => absurd heq (join_columnField_cons_ne_nil c rest), fun heq => (nomatch heq)⟩
    | cons c' rest' =>
      obtain ⟨hc, hrest⟩ := List.forall_mem_cons.1 h
      obtain ⟨hc', hrest'⟩ := List.forall_mem_cons.1 h'
      have hfirst : ∀ {more more'}, "column`" ++ (c ++ ("`" ++ more)) =
          "column`" ++ (c' ++ ("`" ++ more')) ↔
          c = c' ∧ more = more' := by
        intro more more'
        rw [String.append_right_inj, append_tick_eq_iff hc hc']
      rw [join_columnField_cons, join_columnField_cons, hfirst, List.cons.injEq]
      exact and_congr_right fun _ => ih hrest hrest'

theorem columnOrder_iff : columnOrder a b = true ↔
    Text.lowerCase a < Text.lowerCase b ∨ Text.lowerCase a = Text.lowerCase b ∧ a ≤ b := by
  simp [columnOrder]

theorem columnOrder_trans (c : String) (hab : columnOrder a b = true)
    (hbc : columnOrder b c = true) :
    columnOrder a c = true := by
  rw [columnOrder_iff] at *
  rcases hab with hab | ⟨hab, hle⟩
  · rcases hbc with hbc | ⟨hbc, -⟩
    · exact .inl (String.lt_trans hab hbc)
    · exact .inl (hbc ▸ hab)
  · rcases hbc with hbc | ⟨hbc, hle'⟩
    · exact .inl (hab ▸ hbc)
    · exact .inr ⟨hab.trans hbc, String.le_trans hle hle'⟩

theorem columnOrder_total (a b : String) : (columnOrder a b || columnOrder b a) = true := by
  rw [Bool.or_eq_true, columnOrder_iff, columnOrder_iff]
  rcases lt_trichotomy (Text.lowerCase a) (Text.lowerCase b) with h | h | h
  · exact .inl (.inl h)
  · exact (String.le_total a b).imp (fun hle => .inr ⟨h, hle⟩) fun hle => .inr ⟨h.symm, hle⟩
  · exact .inr (.inl h)

/-- Only equal names are not told apart, as spelling decides where case does not. -/
theorem columnOrder_antisymm (hab : columnOrder a b = true) (hba : columnOrder b a = true) :
    a = b := by
  rw [columnOrder_iff] at *
  rcases hab with hab | ⟨hab, hle⟩
  · rcases hba with hba | ⟨hba, -⟩
    · exact absurd (String.lt_trans hab hba) (String.lt_irrefl _)
    · exact absurd (hba ▸ hab) (String.lt_irrefl _)
  · rcases hba with hba | ⟨-, hle'⟩
    · exact absurd (hab ▸ hba) (String.lt_irrefl _)
    · exact String.le_antisymm hle hle'

/-- Sorting forgets the order of columns and nothing else. -/
theorem mergeSort_columnOrder_eq_iff :
    columns.mergeSort columnOrder = columns'.mergeSort columnOrder ↔ columns.Perm columns' := by
  have hsorted : ∀ l : List String, (l.mergeSort columnOrder).Pairwise fun a b =>
      columnOrder a b = true :=
    List.pairwise_mergeSort (fun _ _ c => columnOrder_trans c) columnOrder_total
  constructor
  · intro h
    have hperm := List.mergeSort_perm columns columnOrder
    rw [h] at hperm
    exact hperm.symm.trans (List.mergeSort_perm columns' columnOrder)
  · intro h
    have hperm : (columns.mergeSort columnOrder).Perm (columns'.mergeSort columnOrder) :=
      ((List.mergeSort_perm _ _).trans h).trans (List.mergeSort_perm _ _).symm
    exact hperm.eq_of_pairwise (fun _ _ _ _ => columnOrder_antisymm) (hsorted columns)
      (hsorted columns')

/-- **Of columns, an identity tells all but their order.** -/
theorem columnsIdentity_eq_iff (h : ∀ c ∈ columns, Unticked c) (h' : ∀ c ∈ columns', Unticked c) :
    columnsIdentity columns = columnsIdentity columns' ↔ columns.Perm columns' := by
  rw [← mergeSort_columnOrder_eq_iff]
  refine join_columnField_eq_iff (fun c hc => ?_) fun c hc => ?_
  · exact h c (List.mem_mergeSort.1 hc)
  · exact h' c (List.mem_mergeSort.1 hc)

theorem indexIdentity_eq_iff (ht : Unticked table) (ht' : Unticked table')
    (h : ∀ c ∈ columns, Unticked c) (h' : ∀ c ∈ columns', Unticked c) :
    indexIdentity table columns = indexIdentity table' columns' ↔
      table = table' ∧ columns.Perm columns' := by
  unfold indexIdentity
  simp only [String.append_assoc]
  rw [String.append_right_inj, append_tick_eq_iff ht ht', columnsIdentity_eq_iff h h']

theorem foreignKeyIdentity_eq_iff (ht : Unticked table) (ht' : Unticked table')
    (hr : Unticked references) (hr' : Unticked references') (h : ∀ c ∈ columns, Unticked c)
    (h' : ∀ c ∈ columns', Unticked c) :
    foreignKeyIdentity table references columns = foreignKeyIdentity table' references' columns' ↔
      table = table' ∧ references = references' ∧ columns.Perm columns' := by
  have hword : ∀ rest : String, "`references`" ++ rest = "`" ++ ("references`" ++ rest) :=
    fun rest => by
    rw [← String.append_assoc]
    rfl
  unfold foreignKeyIdentity
  simp only [String.append_assoc, hword]
  rw [String.append_right_inj, append_tick_eq_iff ht ht', String.append_right_inj,
    append_tick_eq_iff hr hr', columnsIdentity_eq_iff h h']

/-- An expression stands at the end, so it may contain what it likes. -/
theorem checkIdentity_eq_iff (ht : Unticked table) (ht' : Unticked table') :
    checkIdentity table expression = checkIdentity table' expression' ↔
      table = table' ∧ expression = expression' := by
  have hword : ∀ rest : String, "`check`" ++ rest = "`" ++ ("check`" ++ rest) := fun rest => by
    rw [← String.append_assoc]
    rfl
  unfold checkIdentity
  simp only [String.append_assoc, hword]
  rw [String.append_right_inj, append_tick_eq_iff ht ht', String.append_right_inj,
    String.append_left_inj]

/-! ## Names -/

/-- The order in which columns are listed does not show, whatever they are called. -/
theorem columnsIdentity_perm (h : columns.Perm columns') :
    columnsIdentity columns = columnsIdentity columns' := by
  rw [columnsIdentity, mergeSort_columnOrder_eq_iff.2 h, columnsIdentity]

theorem index_eq_iff {mark : String} : index mark table columns = index mark table' columns' ↔
    indexIdentity table columns = indexIdentity table' columns' ∨
      Collide (indexIdentity table columns) (indexIdentity table' columns') := by
  rw [index, index, String.append_right_inj, ofIdentity_eq_iff]

theorem foreignKey_eq_iff :
    foreignKey table references columns = foreignKey table' references' columns' ↔
    foreignKeyIdentity table references columns = foreignKeyIdentity table' references' columns' ∨
      Collide (foreignKeyIdentity table references columns)
        (foreignKeyIdentity table' references' columns') := by
  rw [foreignKey, foreignKey, String.append_right_inj, ofIdentity_eq_iff]

-- a name that existing databases hold, so the digest has to be this one
example : foreignKey "Employee" "Employee" ["manager_id"] = "FKiralam2duuhr33k8a10aoc2t6" := by cbv

/-- **What the names of indexes and foreign keys tell.** The order of columns does not matter. Where
names have no backtick, everything else does: other tables and other columns have other identities,
and they share a name only if these collide. -/
theorem names_tell (mark : String) (ht : Unticked table) (ht' : Unticked table')
    (hr : Unticked references) (hr' : Unticked references') (h : ∀ c ∈ columns, Unticked c)
    (h' : ∀ c ∈ columns', Unticked c) :
    (columns.Perm columns' → index mark table columns = index mark table columns' ∧
      foreignKey table references columns = foreignKey table references columns') ∧
    (indexIdentity table columns = indexIdentity table' columns' ↔
      table = table' ∧ columns.Perm columns') ∧
    (index mark table columns = index mark table' columns' ↔
      (table = table' ∧ columns.Perm columns') ∨
      Collide (indexIdentity table columns) (indexIdentity table' columns')) ∧
    (foreignKeyIdentity table references columns = foreignKeyIdentity table' references' columns' ↔
      table = table' ∧ references = references' ∧ columns.Perm columns') ∧
    (foreignKey table references columns = foreignKey table' references' columns' ↔
      (table = table' ∧ references = references' ∧ columns.Perm columns') ∨
        Collide (foreignKeyIdentity table references columns)
          (foreignKeyIdentity table' references' columns')) := by
  have hindex := indexIdentity_eq_iff ht ht' h h'
  have hkey := foreignKeyIdentity_eq_iff ht ht' hr hr' h h'
  refine ⟨fun hperm => ?_, hindex, ?_, hkey, ?_⟩
  · have hcolumns := columnsIdentity_perm hperm
    exact ⟨index_eq_iff.2 (.inl (by rw [indexIdentity, hcolumns, indexIdentity])),
      foreignKey_eq_iff.2 (.inl (by rw [foreignKeyIdentity, hcolumns, foreignKeyIdentity]))⟩
  · rw [index_eq_iff, hindex]
  · rw [foreignKey_eq_iff, hkey]

/-- The same columns in another order, and spellings that differ in case alone. -/
theorem names_tell_singers : Unticked "Singer" ∧ Unticked "Band" ∧ Unticked "Label" ∧
    (∀ c ∈ ["Last", "first", "last"], Unticked c) ∧ (∀ c ∈ ["last", "Last", "first"], Unticked c) ∧
    index indexMark "Singer" ["Last", "first", "last"] =
      index indexMark "Singer" ["last", "Last", "first"] ∧
    (index indexMark "Singer" ["Last", "first", "last"] =
      index indexMark "Band" ["last", "Last", "first"] →
      Collide (indexIdentity "Singer" ["Last", "first", "last"])
        (indexIdentity "Band" ["last", "Last", "first"])) ∧
    foreignKeyIdentity "Singer" "Label" ["Last", "first", "last"] ≠
      foreignKeyIdentity "Singer" "Band" ["last", "Last", "first"] := by
  have hsinger : Unticked "Singer" := by decide
  have hband : Unticked "Band" := by decide
  have hlabel : Unticked "Label" := by decide
  have hcolumns : ∀ c ∈ ["Last", "first", "last"], Unticked c := by decide
  have hcolumns' : ∀ c ∈ ["last", "Last", "first"], Unticked c := by decide
  have hperm : ["Last", "first", "last"].Perm ["last", "Last", "first"] := by decide
  obtain ⟨hsame, -⟩ := names_tell indexMark hsinger hsinger hlabel hlabel hcolumns hcolumns'
  obtain ⟨-, -, hnames, -⟩ := names_tell indexMark hsinger hband hlabel hlabel hcolumns hcolumns'
  obtain ⟨-, -, -, hkeys, -⟩ := names_tell indexMark hsinger hsinger hlabel hband hcolumns hcolumns'
  refine ⟨hsinger, hband, hlabel, hcolumns, hcolumns', (hsame hperm).1, fun h => ?_, fun h => ?_⟩
  · exact (hnames.1 h).resolve_left fun hno => absurd hno.1 (by decide)
  · exact absurd (hkeys.1 h).2.1 (by decide)

end DerivedName

end Interleave
