import Interleave.Catalog
import Mathlib.Data.List.Nodup
import Mathlib.Data.List.Perm.Basic

/-!
# Looking up what exists

* `Catalog.containsTable_ofNames`, `Catalog.containsIndex_ofNames`: a name is found if it is listed,
  ignoring case.
* `NameSet.eq_of_contains`: a set of names is what it contains.
* `Catalog.ofNames_eq_iff`: **catalogs are equal exactly if the same names are listed, ignoring
  case**, in any order and however often.
* `Catalog.Within`: what is found in one catalog is found in the other.
-/

namespace Interleave

variable {s s' : NameSet} {c : Catalog} {names names' tables tables' indexes indexes' : List String}
  {name x : String}

namespace NameSet

/-- The set with a name's lower-case form. -/
def insertLower (s : NameSet) (name : String) : NameSet :=
  s.insert (Text.lowerCase name)

theorem contains_insertLower :
    (s.insertLower name).contains x = true ↔ Text.lowerCase name = x ∨ s.contains x = true := by
  simp only [insertLower, contains, insert, List.contains_iff_mem, mem_insertSorted]
  rw [@eq_comm _ x]

theorem contains_foldl_insertLower : (names.foldl insertLower s).contains x = true ↔
    (∃ n ∈ names, Text.lowerCase n = x) ∨ s.contains x = true := by
  induction names generalizing s with
  | nil => simp
  | cons n rest ih => simp [ih, contains_insertLower, or_assoc, or_left_comm]

/-- Names in ascending order do not repeat. -/
theorem nodup_names (s : NameSet) : s.names.Nodup := by
  refine s.ascending.imp ?_
  rintro name _ hlt rfl
  exact String.lt_irrefl name hlt

/-- **A set of names is what it contains.** Ascending order leaves no choice of where a name stands.
-/
theorem eq_of_contains (h : ∀ x, s.contains x = true ↔ s'.contains x = true) : s = s' := by
  have hmem : ∀ x, x ∈ s.names ↔ x ∈ s'.names := by
    intro x
    rw [← List.contains_iff_mem, ← List.contains_iff_mem]
    exact h x
  have hperm : s.names.Perm s'.names :=
    (List.perm_ext_iff_of_nodup s.nodup_names s'.nodup_names).2 hmem
  have hnames : s.names = s'.names := by
    refine hperm.eq_of_pairwise (fun a b _ _ hab hba => ?_) s.ascending s'.ascending
    exact absurd (String.lt_trans hab hba) (String.lt_irrefl a)
  cases s
  cases s'
  cases hnames
  rfl

/-- Names listed in one order and another, and more or less often. -/
theorem foldl_insertLower_eq_iff : names.foldl insertLower empty = names'.foldl insertLower empty ↔
    ∀ name, name ∈ names.map Text.lowerCase ↔ name ∈ names'.map Text.lowerCase := by
  have hlisted : ∀ (names : List String) x, (names.foldl insertLower empty).contains x = true ↔
      x ∈ names.map Text.lowerCase := by
    intro names x
    rw [contains_foldl_insertLower, List.mem_map]
    exact or_iff_left (by simp [contains, empty])
  constructor
  · intro h name
    rw [← hlisted, ← hlisted, h]
  · intro h
    refine eq_of_contains fun x => ?_
    rw [hlisted, hlisted, h]

end NameSet

namespace Catalog

theorem foldl_insertTable :
    tables.foldl insertTable c =
      { c with tables := tables.foldl NameSet.insertLower c.tables } := by
  induction tables generalizing c with
  | nil => rfl
  | cons t rest ih => exact ih

theorem foldl_insertIndex :
    indexes.foldl insertIndex c =
      { c with indexes := indexes.foldl NameSet.insertLower c.indexes } := by
  induction indexes generalizing c with
  | nil => rfl
  | cons i rest ih => exact ih

theorem containsTable_ofNames : (ofNames tables indexes).containsTable name = true ↔
    ∃ t ∈ tables, Text.lowerCase t = Text.lowerCase name := by
  rw [ofNames, foldl_insertIndex, foldl_insertTable, containsTable,
    NameSet.contains_foldl_insertLower]
  simp [NameSet.contains, NameSet.empty]

theorem containsIndex_ofNames : (ofNames tables indexes).containsIndex name = true ↔
    ∃ i ∈ indexes, Text.lowerCase i = Text.lowerCase name := by
  rw [ofNames, foldl_insertIndex, foldl_insertTable, containsIndex,
    NameSet.contains_foldl_insertLower]
  simp [NameSet.contains, NameSet.empty]

theorem ofNames_eq (tables indexes : List String) : ofNames tables indexes =
    ⟨tables.foldl NameSet.insertLower .empty, indexes.foldl NameSet.insertLower .empty⟩ := by
  rw [ofNames, foldl_insertIndex, foldl_insertTable]

/-- **Catalogs are equal exactly if the same names are listed**, ignoring case. -/
theorem ofNames_eq_iff : ofNames tables indexes = ofNames tables' indexes' ↔
    (∀ name, name ∈ tables.map Text.lowerCase ↔ name ∈ tables'.map Text.lowerCase) ∧
      ∀ name, name ∈ indexes.map Text.lowerCase ↔ name ∈ indexes'.map Text.lowerCase := by
  rw [ofNames_eq, ofNames_eq, Catalog.mk.injEq, NameSet.foldl_insertLower_eq_iff,
    NameSet.foldl_insertLower_eq_iff]

/-- What is found in the one catalog is found in the other. -/
structure Within (c c' : Catalog) : Prop where
  tables : ∀ name, c.containsTable name = true → c'.containsTable name = true
  indexes : ∀ name, c.containsIndex name = true → c'.containsIndex name = true

/-- Listing more names makes a larger catalog. -/
theorem within_ofNames
    (htables : ∀ name ∈ tables.map Text.lowerCase, name ∈ tables'.map Text.lowerCase)
    (hindexes : ∀ name ∈ indexes.map Text.lowerCase, name ∈ indexes'.map Text.lowerCase) :
    (ofNames tables indexes).Within (ofNames tables' indexes') where
  tables name h := by
    rw [containsTable_ofNames, ← List.mem_map] at h ⊢
    exact htables _ h
  indexes name h := by
    rw [containsIndex_ofNames, ← List.mem_map] at h ⊢
    exact hindexes _ h

end Catalog

end Interleave
