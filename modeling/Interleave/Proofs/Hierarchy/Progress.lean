import Interleave.Proofs.Hierarchy.PassOrder

/-!
# Every pass gets on

The passes end because each of them places a table, and not because they are counted. A pass in vain
would leave tables none of which has its parent placed, and following their parents would lead round
in a cycle; but cycles were looked for before the first pass.

* `Checked`: the tables have passed what comes before the passes.
* `AfterPasses`: what is placed and what still waits after a number of passes.
* `Uncovered`: the one error that a pass can end with. A table lacks a key column of one of its
  ancestors.
* `length_lt_of_checked`: a pass that ends well places a table.
* `uncovered_of_pass`: a pass that ends with an error has found a table that is not covered.
* `passes_progress`: **each pass places a table or ends with such an error**, so there are at most
  as many passes as tables, and the passes never give up on tables that wait for one another.
-/

namespace Interleave.Hierarchy

variable {tables waiting rest : List Table} {placed placed' : Layout} {e : DesignError} {n : ℕ}

/-- The tables have passed all checks that are made before the first pass. -/
structure Checked (tables : List Table) : Prop where
  names : checkNames [] tables = .ok ()
  each : ∀ t ∈ tables, checkTable tables t = .ok ()
  acyclic : firstCycle? tables = none

/-- What is placed and what still waits after `n` passes. -/
inductive AfterPasses (tables : List Table) : ℕ → Layout → List Table → Prop
  | start : AfterPasses tables 0 {} tables
  | next {n : ℕ} {placed placed' : Layout} {waiting rest : List Table}
    (before : AfterPasses tables n placed waiting) (waits : waiting ≠ [])
    (passed : pass placed waiting = .ok (placed', rest)) :
    AfterPasses tables (n + 1) placed' rest

/-- One of the waiting tables lacks a key column of one of its ancestors, and the error names both.
-/
inductive Uncovered (tables waiting : List Table) : DesignError → Prop
  | intro {a t : Table} {column : String} (ht : t ∈ waiting) (ha : Ancestor tables a t)
    (hcolumn : column ∈ a.primaryKey) (hlacks : ∀ c ∈ t.columns, c.name ≠ column) :
    Uncovered tables waiting (.unknownColumn t.name column)

namespace Checked

variable (hc : Checked tables)
include hc

theorem nodup : (tables.map Table.name).Nodup :=
  nodup_names (checkNames_eq_ok.1 hc.names).1

theorem parents : ∀ t ∈ tables, ∀ parent, t.parent = some parent → ∃ p ∈ tables, p.name = parent :=
  fun t ht => (checkTable_eq_ok.1 (hc.each t ht)).2.2

/-- What is left to do are the passes. -/
theorem ofTables_eq : Layout.ofTables tables = passes {} tables := by
  rw [Layout.ofTables, hc.names, forM_eq_ok.2 hc.each, hc.acyclic]
  rfl

end Checked

/-- **A pass that ends with an error** has met a table that is not covered. -/
theorem uncovered_of_pass (hd : (tables.map Table.name).Nodup) (hb : Built placed.order)
    (hsub : ∀ p ∈ placed.order, p.table ∈ tables) (hwaiting : ∀ t ∈ waiting, t ∈ tables)
    (h : pass placed waiting = .error e) : Uncovered tables waiting e := by
  have hlater : ∀ {t waiting}, Uncovered tables waiting e → Uncovered tables (t :: waiting) e := by
    rintro t waiting ⟨ht, ha, hcolumn, hlacks⟩
    exact ⟨List.mem_cons_of_mem _ ht, ha, hcolumn, hlacks⟩
  fun_induction pass placed waiting with
  | case1 => cases h
  | case2 placed t waiting hstands ih =>
    have hrest : ∀ u ∈ waiting, u ∈ tables := fun u hu => hwaiting u (List.mem_cons_of_mem _ hu)
    rcases bind_eq_error.1 h with h | ⟨_, _, h⟩
    · exact hlater (ih hb hsub hrest h)
    · cases h
  | case3 placed t waiting inherited hstands ih =>
    have ht : t ∈ tables := hwaiting t List.mem_cons_self
    have hrest : ∀ u ∈ waiting, u ∈ tables := fun u hu => hwaiting u (List.mem_cons_of_mem _ hu)
    rcases bind_eq_error.1 h with h | ⟨p, hplace, h⟩
    · obtain ⟨column, hcolumn, hlacks, rfl⟩ := place_eq_error h
      have hnone : ∀ c ∈ t.columns, c.name ≠ column := by
        intro c hmem hname
        rw [Table.declares_iff.2 ⟨c, hmem, hname⟩] at hlacks
        cases hlacks
      -- what the table takes over is its parent's key, which is made of the keys of its ancestors
      rcases inheritedKey?_eq_some.1 hstands with ⟨-, rfl⟩ | ⟨parent, q, hparent, hfind, rfl⟩
      · cases hcolumn
      · obtain ⟨hq, hqt⟩ := isParent_of_find? hsub ht hparent hfind
        obtain ⟨a, ha, hdeclared⟩ := (hb.mem_key hd hsub hq).1 hcolumn
        exact ⟨List.mem_cons_self, (ancestor_iff_of_isParent hd hqt).2 ha, hdeclared, hnone⟩
    · have hsub' : ∀ q ∈ placed.order ++ [p], q.table ∈ tables := by
        intro q hq
        rcases List.mem_append.1 hq with hq | hq
        · exact hsub q hq
        · rwa [List.mem_singleton.1 hq, table_of_place hplace]
      exact hlater (ih p (hb.snoc hstands hplace) hsub' hrest h)

/-- **A pass that ends well** places a table. -/
theorem length_lt_of_checked (hc : Checked tables)
    (hall : (placed.order.map (·.table) ++ waiting).Perm tables)
    (hwaits : waiting ≠ []) (h : pass placed waiting = .ok (placed', rest)) :
    rest.length < waiting.length :=
  length_lt_of_ends hc.parents hall hc.nodup (acc_of_firstCycle?_eq_none hc.acyclic) hwaits h

theorem uncovered_of_checked (hc : Checked tables) (hb : Built placed.order)
    (hall : (placed.order.map (·.table) ++ waiting).Perm tables)
    (h : pass placed waiting = .error e) :
    Uncovered tables waiting e := by
  have hmem : ∀ t, t ∈ placed.order.map (·.table) ++ waiting → t ∈ tables := fun t => hall.mem_iff.1
  have hsub : ∀ p ∈ placed.order, p.table ∈ tables := fun p hp =>
    hmem _ (List.mem_append_left _ (List.mem_map_of_mem hp))
  exact uncovered_of_pass hc.nodup hb hsub (fun t ht => hmem t (List.mem_append_right _ ht)) h

/-- **What some passes come to.** They have built an order, no table is lost, and one table at least
has been placed by each pass. -/
theorem AfterPasses.built (hc : Checked tables) (h : AfterPasses tables n placed waiting) :
    Built placed.order ∧ (placed.order.map (·.table) ++ waiting).Perm tables ∧
      n + waiting.length ≤ tables.length := by
  induction h with
  | start => exact ⟨.nil, .refl _, by omega⟩
  | next _ hwaits hpass ih =>
    obtain ⟨hb, hall, hlength⟩ := ih
    obtain ⟨hb', hperm⟩ := pass_ok hb hpass
    have hless := length_lt_of_checked hc hall hwaits hpass
    exact ⟨hb', hperm.trans hall, by omega⟩

/-- The passes end, with no table waiting or with the error of the last of them. -/
theorem AfterPasses.exists_last (hc : Checked tables) (h : AfterPasses tables n placed waiting) :
    ∃ n' placed' waiting', AfterPasses tables n' placed' waiting' ∧
      (waiting' = [] ∧ passes placed waiting = .ok placed' ∨
        ∃ e, waiting' ≠ [] ∧ pass placed' waiting' = .error e ∧
        passes placed waiting = .error e) := by
  fun_induction passes placed waiting generalizing n with
  | case1 placed waiting hnone =>
    exact ⟨n, placed, waiting, h, .inl ⟨List.isEmpty_iff.1 hnone, rfl⟩⟩
  | case2 placed waiting hwaits e hpass =>
    exact ⟨n, placed, waiting, h, .inr ⟨e, by simpa using hwaits, hpass, rfl⟩⟩
  | case3 placed waiting hwaits placed' rest hpass _ ih =>
    exact ih (h.next (by simpa using hwaits) hpass)
  | case4 placed waiting hwaits placed' rest hpass hvain =>
    obtain ⟨-, hall, -⟩ := h.built hc
    exact absurd (length_lt_of_checked hc hall (by simpa using hwaits) hpass) hvain

/-- **Each pass places a table or ends with an error that is one**: a table lacks a column of its
parent's key. So there are at most as many passes as tables, they end with a layout or with the
error of the last pass, and no tables are reported to wait for one another. -/
theorem passes_progress (hc : Checked tables) :
    (∀ n placed waiting, AfterPasses tables n placed waiting → waiting ≠ [] → n < tables.length ∧
      ((∃ placed' rest, pass placed waiting = .ok (placed', rest) ∧
        placed.order.length < placed'.order.length) ∨
        ∃ e, pass placed waiting = .error e ∧ Uncovered tables waiting e)) ∧
    (∃ n placed waiting, AfterPasses tables n placed waiting ∧ n ≤ tables.length ∧
      (waiting = [] ∧ Layout.ofTables tables = .ok placed ∨
        ∃ e, waiting ≠ [] ∧ pass placed waiting = .error e ∧ Uncovered tables waiting e ∧
          Layout.ofTables tables = .error e)) ∧
    ∀ names, Layout.ofTables tables ≠ .error (.cyclicHierarchy names) := by
  have hend : ∃ n placed waiting, AfterPasses tables n placed waiting ∧ n ≤ tables.length ∧
      (waiting = [] ∧ Layout.ofTables tables = .ok placed ∨
        ∃ e, waiting ≠ [] ∧ pass placed waiting = .error e ∧ Uncovered tables waiting e ∧
          Layout.ofTables tables = .error e) := by
    rw [hc.ofTables_eq]
    obtain ⟨n, placed, waiting, h, hlast⟩ := AfterPasses.start.exists_last hc
    obtain ⟨hb, hall, hlength⟩ := h.built hc
    refine ⟨n, placed, waiting, h, by omega, hlast.imp_right ?_⟩
    rintro ⟨e, hwaits, herror, hpasses⟩
    exact ⟨e, hwaits, herror, uncovered_of_checked hc hb hall herror, hpasses⟩
  refine ⟨fun n placed waiting h hwaits => ?_, hend, fun names hcyclic => ?_⟩
  · obtain ⟨hb, hall, hlength⟩ := h.built hc
    have hpos := List.length_pos_iff.2 hwaits
    refine ⟨by omega, ?_⟩
    cases hpass : pass placed waiting with
    | error e => exact .inr ⟨e, rfl, uncovered_of_checked hc hb hall hpass⟩
    | ok result =>
      obtain ⟨placed', rest⟩ := result
      have hless := length_lt_of_checked hc hall hwaits hpass
      have hsame := (pass_ok hb hpass).2.length_eq
      simp only [List.length_append, List.length_map] at hsame
      exact .inl ⟨placed', rest, rfl, by omega⟩
  · obtain ⟨n, placed, waiting, -, -, ⟨-, hok⟩ | ⟨e, -, -, huncovered, herror⟩⟩ := hend
    · nomatch hok.symm.trans hcyclic
    · obtain rfl := Except.error.inj (herror.symm.trans hcyclic)
      nomatch huncovered

/-- It is stored in the cellar, and does not know which. -/
def barrel : Table where
  name := "Barrel"
  columns := [{ name := "HouseId", type := .int64 }, { name := "BarrelId", type := .int64 }]
  primaryKey := ["BarrelId"]
  parent := some "Cellar"

/-- The first pass places the house and its cellar, and the second ends with an error. -/
theorem passes_progress_barrel : Checked [barrel, house, cellar] ∧ ∃ placed,
    AfterPasses [barrel, house, cellar] 1 placed [barrel] ∧ 1 < [barrel, house, cellar].length ∧
    (∃ e, pass placed [barrel] = .error e ∧ Uncovered [barrel, house, cellar] [barrel] e) ∧
    ∀ names, Layout.ofTables [barrel, house, cellar] ≠ .error (.cyclicHierarchy names) := by
  have hc : Checked [barrel, house, cellar] :=
    ⟨by decide +kernel, by decide +kernel, by decide +kernel⟩
  obtain ⟨hpasses, -, hnot⟩ := passes_progress hc
  have hfirst : AfterPasses [barrel, house, cellar] 1
      ⟨[⟨house, ["HouseId"]⟩, ⟨cellar, ["HouseId", "CellarId"]⟩]⟩ [barrel] :=
    .next .start (by simp) (by rfl)
  obtain ⟨hless, hsecond⟩ := hpasses 1 _ _ hfirst (by simp)
  refine ⟨hc, _, hfirst, hless, hsecond.resolve_left ?_, hnot⟩
  rintro ⟨placed', rest, hok, -⟩
  have herror : pass ⟨[⟨house, ["HouseId"]⟩, ⟨cellar, ["HouseId", "CellarId"]⟩]⟩ [barrel] =
      .error (.unknownColumn "Barrel" "CellarId") := by rfl
  nomatch herror.symm.trans hok

end Interleave.Hierarchy
