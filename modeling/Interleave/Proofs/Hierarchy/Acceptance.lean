import Interleave.Proofs.Hierarchy.Cycle
import Interleave.Proofs.Hierarchy.Placement

/-!
# Which tables can be laid out

* `Sound`: what a list of tables has to satisfy, said without any layout.
* `ofTables_ok_iff`: **the tables can be laid out exactly if they are sound.**

Each phase of `Layout.ofTables` decides some of the conditions: `checkNames` that names are
distinct, `checkTable` what can be seen at one table, `firstCycle?` that links end, and the passes
that children declare the keys they inherit.
-/

namespace Interleave.Hierarchy

variable {tables : List Table} {a t : Table} {seen : List String} {layout : Layout}

/-- The conditions under which tables can be laid out. -/
structure Sound (tables : List Table) : Prop where
  /-- Names are distinct, ignoring case. -/
  distinct : (tables.map fun t => Text.lowerCase t.name).Nodup
  keyed : ∀ t ∈ tables, t.primaryKey ≠ []
  /-- Every parent is declared, in the very spelling. -/
  parents : ∀ t ∈ tables, ∀ parent, t.parent = some parent → ∃ p ∈ tables, p.name = parent
  acyclic : ∀ t ∈ tables, ¬ Ancestor tables t t
  /-- A table declares the key columns of its own and of all its ancestors. -/
  covered : ∀ t ∈ tables, ∀ a, (a = t ∨ Ancestor tables a t) →
    ∀ column ∈ a.primaryKey, ∃ c ∈ t.columns, c.name = column

theorem nodup_names (h : (tables.map fun t => Text.lowerCase t.name).Nodup) :
    (tables.map Table.name).Nodup := by
  have hmap : (tables.map fun t => Text.lowerCase t.name) =
      (tables.map Table.name).map Text.lowerCase := by
    rw [List.map_map]; rfl
  exact List.Nodup.of_map Text.lowerCase (hmap ▸ h)

/-- No table is declared twice. -/
theorem Sound.nodup (hs : Sound tables) : tables.Nodup :=
  (nodup_names hs.distinct).of_map

theorem Sound.ne_of_ancestor (hs : Sound tables) (ha : Ancestor tables a t) : a ≠ t := by
  rintro rfl
  exact hs.acyclic a ha.mem_left ha

theorem checkNames_eq_ok : checkNames seen tables = .ok () ↔
    (tables.map fun t => Text.lowerCase t.name).Nodup ∧
      ∀ t ∈ tables, Text.lowerCase t.name ∉ seen := by
  induction tables generalizing seen with
  | nil => simp [checkNames]
  | cons t rest ih =>
    by_cases hseen : Text.lowerCase t.name ∈ seen
    · simp [checkNames, hseen]
    · simp only [checkNames, hseen, if_false, ih, List.map_cons, List.nodup_cons, List.mem_map,
        List.forall_mem_cons]
      constructor
      · rintro ⟨hnodup, hrest⟩
        refine ⟨⟨?_, hnodup⟩, not_false, fun u hu hmem => hrest u hu (List.mem_cons_of_mem _ hmem)⟩
        rintro ⟨u, hu, hname⟩
        exact hrest u hu (hname ▸ List.mem_cons_self)
      · rintro ⟨⟨hnot, hnodup⟩, -, hrest⟩
        refine ⟨hnodup, fun u hu hmem => ?_⟩
        rcases List.mem_cons.1 hmem with hname | hmem
        · exact hnot ⟨u, hu, hname⟩
        · exact hrest u hu hmem

theorem checkTable_eq_ok : checkTable tables t = .ok () ↔
    t.primaryKey ≠ [] ∧ (∀ column ∈ t.primaryKey, t.declares column = true) ∧
      ∀ parent, t.parent = some parent → ∃ p ∈ tables, p.name = parent := by
  unfold checkTable
  by_cases hkey : t.primaryKey = []
  · simp [hkey]
  rw [if_neg (by simpa using hkey)]
  by_cases hall : ∀ column ∈ t.primaryKey, t.declares column = true
  · rw [Table.find?_undeclared_eq_none.2 hall]
    cases t.parent with
    | none => exact ⟨fun _ => ⟨hkey, hall, by simp⟩, fun _ => rfl⟩
    | some parent =>
      have hany : tables.any (·.name == parent) = true ↔ ∃ p ∈ tables, p.name = parent := by simp
      by_cases hdeclared : ∃ p ∈ tables, p.name = parent
      · have hforall : ∀ name, some parent = some name → ∃ p ∈ tables, p.name = name :=
          fun name hname => Option.some.inj hname ▸ hdeclared
        simp only [hany.2 hdeclared, if_true]
        exact ⟨fun _ => ⟨hkey, hall, hforall⟩, fun _ => trivial⟩
      · simp only [mt hany.1 hdeclared]
        exact ⟨fun h => (nomatch h), fun h => absurd (h.2.2 parent rfl) hdeclared⟩
  · obtain ⟨column, hmissing⟩ :=
      Option.ne_none_iff_exists'.1 (mt Table.find?_undeclared_eq_none.1 hall)
    rw [hmissing]
    exact ⟨fun h => (nomatch h), fun h => absurd h.2.1 hall⟩

/-- The phases, one after another. -/
theorem ofTables_eq_ok : Layout.ofTables tables = .ok layout ↔
    checkNames [] tables = .ok () ∧ (∀ t ∈ tables, checkTable tables t = .ok ()) ∧
      firstCycle? tables = none ∧ passes {} tables = .ok layout := by
  unfold Layout.ofTables
  simp only [bind_eq_ok]
  rw [← forM_eq_ok]
  cases firstCycle? tables with
  | some cycle => exact ⟨fun ⟨_, _, _, _, h⟩ => (nomatch h), fun ⟨_, _, h, _⟩ => (nomatch h)⟩
  | none => exact ⟨fun ⟨_, h, _, hforM, hpasses⟩ => ⟨h, hforM, rfl, hpasses⟩,
      fun ⟨h, hforM, _, hpasses⟩ => ⟨(), h, (), hforM, hpasses⟩⟩

/-- A layout is built of the tables. -/
theorem built_of_ofTables (h : Layout.ofTables tables = .ok layout) :
    Built layout.order ∧ (layout.order.map (·.table)).Perm tables :=
  passes_ok .nil (ofTables_eq_ok.1 h).2.2.2

/-- What the phases before the passes decide. -/
theorem sound_of_ofTables (h : Layout.ofTables tables = .ok layout) : Sound tables := by
  obtain ⟨hnames, hchecks, hcycle, -⟩ := ofTables_eq_ok.1 h
  have hdistinct := (checkNames_eq_ok.1 hnames).1
  have hd := nodup_names hdistinct
  have hparents : ∀ t ∈ tables, ∀ parent, t.parent = some parent → ∃ p ∈ tables, p.name = parent :=
    fun t ht => (checkTable_eq_ok.1 (hchecks t ht)).2.2
  obtain ⟨hbuilt, hperm⟩ := built_of_ofTables h
  have hmem : ∀ t, t ∈ layout.order.map (·.table) ↔ t ∈ tables := fun _ => hperm.mem_iff
  have hsub : ∀ p ∈ layout.order, p.table ∈ tables :=
    fun p hp => (hmem _).1 (List.mem_map_of_mem hp)
  refine ⟨hdistinct, fun t ht => (checkTable_eq_ok.1 (hchecks t ht)).1, hparents,
    (firstCycle?_eq_none_iff hd hparents).1 hcycle,
    fun t ht a ha column hcolumn => Table.declares_iff.1 ?_⟩
  obtain ⟨p, hp, rfl⟩ := List.mem_map.1 ((hmem t).2 ht)
  exact hbuilt.declares_key hp (checkTable_eq_ok.1 (hchecks _ ht)).2.1 column
    ((hbuilt.mem_key hd hsub hp).2 ⟨a, ha, hcolumn⟩)

/-- A layout gives every table of the schema one place. -/
theorem nodup_names_of_ofTables (h : Layout.ofTables tables = .ok layout) :
    (layout.order.map (·.name)).Nodup := by
  have hmap := ((built_of_ofTables h).2.map Table.name).nodup_iff.2
      (nodup_names (sound_of_ofTables h).distinct)
  rwa [List.map_map] at hmap

theorem ofTables_of_sound (h : Sound tables) : ∃ layout, Layout.ofTables tables = .ok layout := by
  have hd := nodup_names h.distinct
  have hcycle := (firstCycle?_eq_none_iff hd h.parents).2 h.acyclic
  have hchecks : ∀ t ∈ tables, checkTable tables t = .ok () := fun t ht => checkTable_eq_ok.2
    ⟨h.keyed t ht, fun column hcolumn =>
      Table.declares_iff.2 (h.covered t ht t (.inl rfl) column hcolumn), h.parents t ht⟩
  have hall : (({} : Layout).order.map (·.table) ++ tables).Perm tables := .refl _
  obtain ⟨layout, hpasses⟩ := passes_total hd h.parents (acc_of_firstCycle?_eq_none hcycle)
    (fun t ht a ha column hcolumn =>
      Table.declares_iff.2 (h.covered t ht a (.inr ha) column hcolumn)) .nil hall
  exact ⟨layout, ofTables_eq_ok.2 ⟨checkNames_eq_ok.2 ⟨h.distinct, by simp⟩, hchecks,
    hcycle, hpasses⟩⟩

/-- **The tables can be laid out exactly if they are sound.** -/
theorem ofTables_ok_iff (tables : List Table) :
    (∃ layout, Layout.ofTables tables = .ok layout) ↔ Sound tables :=
  ⟨fun ⟨_, h⟩ => sound_of_ofTables h, ofTables_of_sound⟩

end Interleave.Hierarchy
