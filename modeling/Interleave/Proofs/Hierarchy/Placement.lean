import Interleave.Hierarchy.Layout
import Interleave.Proofs.Except
import Interleave.Proofs.Hierarchy.Ancestry
import Mathlib.Data.List.Perm.Basic

/-!
# Placing tables

* `Built`: the orders that come about by placing one table after another. All that is said of a
  finished layout is proved of these.
* `Built.mem_key`: the columns of a full key are the declared keys of the table and of its
  ancestors.
* `pass_cons_of_none`, `pass_cons_of_some`: what a pass does with the table it meets; `pass_append`:
  a pass over tables in two parts.
* `pass_ok`, `passes_ok`: passes build an order of the waiting tables.
* `pass_total`, `passes_total`: no pass fails, and none is in vain, as long as children declare what
  they inherit and no links go round.
-/

namespace Interleave

theorem Table.declares_iff {t : Table} {column : String} :
    t.declares column = true ↔ ∃ c ∈ t.columns, c.name = column := by
  simp [Table.declares]

/-- The search for a column that a table lacks. -/
theorem Table.find?_undeclared_eq_none {t : Table} {columns : List String} :
    (columns.find? fun column => !t.declares column) = none ↔
      ∀ column ∈ columns, t.declares column = true := by
  simp [List.find?_eq_none]

namespace Hierarchy

variable {tables waiting rest first second : List Table} {placed placed' layout : Layout}
  {order : List PlacedTable} {p : PlacedTable} {t : Table} {inherited : List String}
  {column : String}

theorem place_eq_ok : place inherited t = .ok p ↔ (∀ column ∈ inherited, t.declares column = true) ∧
    p = ⟨t, inherited ++ t.primaryKey.filter fun column => !inherited.contains column⟩ := by
  unfold place
  by_cases hall : ∀ column ∈ inherited, t.declares column = true
  · rw [Table.find?_undeclared_eq_none.2 hall]
    exact ⟨fun h => ⟨hall, (Except.ok.inj h).symm⟩, fun h => by rw [h.2]⟩
  · obtain ⟨column, hmissing⟩ :=
      Option.ne_none_iff_exists'.1 (mt Table.find?_undeclared_eq_none.1 hall)
    rw [hmissing]
    exact ⟨fun h => (nomatch h), fun h => absurd h.1 hall⟩

theorem place_eq_error {e : DesignError} (h : place inherited t = .error e) :
    ∃ column ∈ inherited, t.declares column = false ∧ e = .unknownColumn t.name column := by
  unfold place at h
  cases hfind : inherited.find? fun column => !t.declares column with
  | none =>
    rw [hfind] at h
    nomatch h
  | some column =>
    rw [hfind] at h
    exact ⟨column, List.mem_of_find?_eq_some hfind, by simpa using List.find?_some hfind,
      (Except.error.inj h).symm⟩

theorem table_of_place (h : place inherited t = .ok p) : p.table = t := by
  rw [(place_eq_ok.1 h).2]

theorem inheritedKey?_eq_some : inheritedKey? placed t = some inherited ↔
    (t.parent = none ∧ inherited = []) ∨
      ∃ parent q, t.parent = some parent ∧ placed.find? parent = some q ∧ q.key = inherited := by
  unfold inheritedKey?
  cases t.parent with
  | none => simp [eq_comm]
  | some parent => simp

theorem find?_append_of_some (h : (⟨order⟩ : Layout).find? name = some p)
    (more : List PlacedTable) :
    (⟨order ++ more⟩ : Layout).find? name = some p := by
  rw [Layout.find?] at h ⊢
  rw [List.find?_append, h]
  rfl

/-- What a table takes over does not change as more tables are placed. -/
theorem inheritedKey?_append (h : inheritedKey? ⟨order⟩ t = some inherited)
    (more : List PlacedTable) :
    inheritedKey? ⟨order ++ more⟩ t = some inherited := by
  rcases inheritedKey?_eq_some.1 h with ⟨hroot, rfl⟩ | ⟨parent, q, hparent, hfind, rfl⟩
  · exact inheritedKey?_eq_some.2 (.inl ⟨hroot, rfl⟩)
  · exact inheritedKey?_eq_some.2 (.inr ⟨parent, q, hparent, find?_append_of_some hfind more, rfl⟩)

/-- The order can be got by placing one table after another, each once its parent stands. -/
inductive Built : List PlacedTable → Prop
  | nil : Built []
  | snoc {order : List PlacedTable} {t : Table} {inherited : List String} {p : PlacedTable}
    (before : Built order) (stands : inheritedKey? ⟨order⟩ t = some inherited)
    (placing : place inherited t = .ok p) : Built (order ++ [p])

theorem Built.exists_inherited (hb : Built order) (hp : p ∈ order) :
    ∃ inherited, place inherited p.table = .ok p := by
  induction hb with
  | nil => simp at hp
  | snoc _ _ hplace ih =>
    rcases List.mem_append.1 hp with hp | hp
    · exact ih hp
    · obtain rfl := List.mem_singleton.1 hp
      have hp := (place_eq_ok.1 hplace).2
      subst hp
      exact ⟨_, hplace⟩

/-- A child that can be placed has its parent placed. -/
theorem exists_parent_of_stands {parent : String}
    (hstands : inheritedKey? ⟨order⟩ t = some inherited) (hparent : t.parent = some parent) :
    ∃ q ∈ order, q.name = parent := by
  rcases inheritedKey?_eq_some.1 hstands with ⟨hroot, -⟩ | ⟨name, q, hname, hfind, -⟩
  · rw [hroot] at hparent
    nomatch hparent
  · obtain rfl : name = parent := Option.some.inj (hname.symm.trans hparent)
    exact ⟨q, List.mem_of_find?_eq_some hfind, by simpa using List.find?_some hfind⟩

theorem Built.exists_parent {parent : String} (hb : Built order) (hp : p ∈ order)
    (hparent : p.table.parent = some parent) : ∃ q ∈ order, q.name = parent := by
  induction hb with
  | nil => simp at hp
  | snoc _ hstands hplace ih =>
    rcases List.mem_append.1 hp with hp | hp
    · obtain ⟨q, hq, hname⟩ := ih hp
      exact ⟨q, List.mem_append_left _ hq, hname⟩
    · obtain rfl := List.mem_singleton.1 hp
      rw [table_of_place hplace] at hparent
      obtain ⟨q, hq, hname⟩ := exists_parent_of_stands hstands hparent
      exact ⟨q, List.mem_append_left _ hq, hname⟩

/-- A full key can be read off the table's columns, if the declared key can. -/
theorem Built.declares_key (hb : Built order) (hp : p ∈ order)
    (hown : ∀ column ∈ p.table.primaryKey, p.table.declares column = true) :
    ∀ column ∈ p.key, p.table.declares column = true := by
  obtain ⟨inherited, hplace⟩ := hb.exists_inherited hp
  obtain ⟨hinherited, hp⟩ := place_eq_ok.1 hplace
  intro column hcolumn
  rw [hp, List.mem_append] at hcolumn
  exact hcolumn.elim (hinherited column) fun h => hown column (List.mem_filter.1 h).1

/-- The table found under a parent's name is the parent. -/
theorem isParent_of_find? {parent : String} (hsub : ∀ p ∈ placed.order, p.table ∈ tables)
    (ht : t ∈ tables) (hparent : t.parent = some parent) (hfind : placed.find? parent = some p) :
    p ∈ placed.order ∧ IsParent tables p.table t := by
  have hp := List.mem_of_find?_eq_some hfind
  have hname : p.table.name = parent := by simpa [PlacedTable.name] using List.find?_some hfind
  exact ⟨hp, hsub p hp, ht, by rw [hparent, hname]⟩

/-- **A full key consists of declared keys**: the table's own and those of its ancestors. -/
theorem Built.mem_key (hd : (tables.map Table.name).Nodup) (hb : Built order)
    (hsub : ∀ p ∈ order, p.table ∈ tables) (hp : p ∈ order) :
    column ∈ p.key ↔ ∃ a, (a = p.table ∨ Ancestor tables a p.table) ∧ column ∈ a.primaryKey := by
  induction hb generalizing p column with
  | nil => simp at hp
  | @snoc order t inherited new hb hstands hplace ih =>
    have hbefore : ∀ p ∈ order, p.table ∈ tables := fun p hp => hsub p (List.mem_append_left _ hp)
    rcases List.mem_append.1 hp with hp | hp
    · exact ih hbefore hp
    obtain rfl := List.mem_singleton.1 hp
    obtain ⟨-, rfl⟩ := place_eq_ok.1 hplace
    have ht : t ∈ tables := hsub _ (List.mem_append_right _ hp)
    rcases inheritedKey?_eq_some.1 hstands with ⟨hroot, rfl⟩ | ⟨parent, q, hparent, hfind, rfl⟩
    · have hno : ∀ a, ¬ Ancestor tables a t := fun a => not_ancestor_of_root hroot
      simp [hno]
    · obtain ⟨hq, hqt⟩ := isParent_of_find? hbefore ht hparent hfind
      -- the filter takes out what the parent's key has already, so nothing is lost
      have hkey : column ∈ q.key ++ t.primaryKey.filter (fun column => !q.key.contains column) ↔
          column ∈ q.key ∨ column ∈ t.primaryKey := by
        by_cases h : column ∈ q.key <;> simp [h]
      simp only [hkey, ih hbefore hq, ancestor_iff_of_isParent hd hqt]
      constructor
      · rintro (⟨a, ha, hcolumn⟩ | hcolumn)
        · exact ⟨a, .inr ha, hcolumn⟩
        · exact ⟨t, .inl rfl, hcolumn⟩
      · rintro ⟨a, rfl | ha, hcolumn⟩
        · exact .inr hcolumn
        · exact .inl ⟨a, ha, hcolumn⟩

theorem pass_cons_of_none (hnone : inheritedKey? placed t = none) :
    pass placed (t :: waiting) = .ok (placed', rest) ↔
    ∃ rest', pass placed waiting = .ok (placed', rest') ∧ rest = t :: rest' := by
  rw [pass, hnone]
  constructor
  · intro h
    obtain ⟨⟨placed'', rest'⟩, hrest, h⟩ := bind_eq_ok.1 h
    obtain ⟨rfl, rfl⟩ := Prod.mk.inj (Except.ok.inj h)
    exact ⟨rest', hrest, rfl⟩
  · rintro ⟨rest', hrest, rfl⟩
    exact bind_eq_ok.2 ⟨_, hrest, rfl⟩

theorem pass_cons_of_some (hsome : inheritedKey? placed t = some inherited) :
    pass placed (t :: waiting) = .ok (placed', rest) ↔
      ∃ p, place inherited t = .ok p ∧
        pass ⟨placed.order ++ [p]⟩ waiting = .ok (placed', rest) := by
  rw [pass, hsome]
  exact bind_eq_ok

/-- A pass goes through one part of the tables and then through the rest. -/
theorem pass_append (h : pass placed (first ++ second) = .ok (placed', rest)) : ∃ between r₁ r₂,
    pass placed first = .ok (between, r₁) ∧ pass between second = .ok (placed', r₂) ∧
      rest = r₁ ++ r₂ := by
  induction first generalizing placed rest with
  | nil => exact ⟨placed, [], rest, rfl, h, rfl⟩
  | cons t first ih =>
    cases hkey : inheritedKey? placed t with
    | none =>
      obtain ⟨rest, hpass, rfl⟩ := (pass_cons_of_none hkey).1 h
      obtain ⟨between, r₁, r₂, h₁, h₂, rfl⟩ := ih hpass
      exact ⟨between, t :: r₁, r₂, (pass_cons_of_none hkey).2 ⟨r₁, h₁, rfl⟩, h₂, rfl⟩
    | some inherited =>
      obtain ⟨p, hplace, hpass⟩ := (pass_cons_of_some hkey).1 h
      obtain ⟨between, r₁, r₂, h₁, h₂, rfl⟩ := ih hpass
      exact ⟨between, r₁, r₂, (pass_cons_of_some hkey).2 ⟨p, hplace, h₁⟩, h₂, rfl⟩

theorem sublist_of_pass (h : pass placed waiting = .ok (placed', rest)) : rest.Sublist waiting := by
  induction waiting generalizing placed rest with
  | nil =>
    obtain ⟨-, rfl⟩ := Prod.mk.inj (Except.ok.inj h)
    exact List.Sublist.refl _
  | cons t waiting ih =>
    cases hkey : inheritedKey? placed t with
    | none =>
      obtain ⟨rest, hpass, rfl⟩ := (pass_cons_of_none hkey).1 h
      exact (ih hpass).cons_cons t
    | some inherited =>
      obtain ⟨p, -, hpass⟩ := (pass_cons_of_some hkey).1 h
      exact (ih hpass).cons t

/-- A pass that meets a table whose parent stands places at least one. -/
theorem length_lt_of_pass (h : pass placed waiting = .ok (placed', rest)) (ht : t ∈ waiting)
    (hready : (inheritedKey? placed t).isSome) : rest.length < waiting.length := by
  induction waiting generalizing placed rest with
  | nil => simp at ht
  | cons u waiting ih =>
    cases hkey : inheritedKey? placed u with
    | none =>
      obtain ⟨rest, hpass, rfl⟩ := (pass_cons_of_none hkey).1 h
      rcases List.mem_cons.1 ht with rfl | ht
      · simp [hkey] at hready
      · exact Nat.succ_lt_succ (ih hpass ht hready)
    | some inherited =>
      obtain ⟨p, -, hpass⟩ := (pass_cons_of_some hkey).1 h
      exact Nat.lt_succ_of_le (sublist_of_pass hpass).length_le

/-- **A pass builds on.** It moves tables from the waiting ones to the placed ones. -/
theorem pass_ok (hb : Built placed.order) (h : pass placed waiting = .ok (placed', rest)) :
    Built placed'.order ∧
      (placed'.order.map (·.table) ++ rest).Perm (placed.order.map (·.table) ++ waiting) := by
  induction waiting generalizing placed rest with
  | nil =>
    obtain ⟨rfl, rfl⟩ := Prod.mk.inj (Except.ok.inj h)
    exact ⟨hb, .refl _⟩
  | cons t waiting ih =>
    cases hkey : inheritedKey? placed t with
    | none =>
      obtain ⟨rest, hpass, rfl⟩ := (pass_cons_of_none hkey).1 h
      obtain ⟨hb', hperm⟩ := ih hb hpass
      exact ⟨hb', (List.perm_middle.trans (hperm.cons t)).trans List.perm_middle.symm⟩
    | some inherited =>
      obtain ⟨p, hplace, hpass⟩ := (pass_cons_of_some hkey).1 h
      obtain ⟨hb', hperm⟩ := ih (.snoc hb hkey hplace) hpass
      refine ⟨hb', hperm.trans ?_⟩
      simp [table_of_place hplace]

/-- **A layout is built** and places every waiting table once. -/
theorem passes_ok (hb : Built placed.order) (h : passes placed waiting = .ok layout) :
    Built layout.order ∧
      (layout.order.map (·.table)).Perm (placed.order.map (·.table) ++ waiting) := by
  fun_induction passes placed waiting with
  | case1 placed waiting hnone =>
    obtain rfl := Except.ok.inj h
    rw [List.isEmpty_iff.1 hnone, List.append_nil]
    exact ⟨hb, .refl _⟩
  | case2 => nomatch h
  | case3 placed waiting _ placed' rest hpass _ ih =>
    obtain ⟨hb', hperm⟩ := pass_ok hb hpass
    obtain ⟨hbuilt, hall⟩ := ih hb' h
    exact ⟨hbuilt, hall.trans hperm⟩
  | case4 => nomatch h

section Total

variable (hd : (tables.map Table.name).Nodup)
  (hcovered : ∀ t ∈ tables, ∀ a, Ancestor tables a t →
    ∀ column ∈ a.primaryKey, t.declares column = true)
include hd hcovered

/-- A table can be placed once its parent stands. -/
theorem place_total (hb : Built placed.order) (hsub : ∀ p ∈ placed.order, p.table ∈ tables)
    (ht : t ∈ tables) (hstands : inheritedKey? placed t = some inherited) :
    ∃ p, place inherited t = .ok p := by
  refine ⟨_, place_eq_ok.2 ⟨?_, rfl⟩⟩
  rcases inheritedKey?_eq_some.1 hstands with ⟨-, rfl⟩ | ⟨parent, q, hparent, hfind, rfl⟩
  · simp
  · obtain ⟨hq, hqt⟩ := isParent_of_find? hsub ht hparent hfind
    intro column hcolumn
    obtain ⟨a, ha, hdeclared⟩ := (hb.mem_key hd hsub hq).1 hcolumn
    exact hcovered t ht a ((ancestor_iff_of_isParent hd hqt).2 ha) column hdeclared

theorem pass_total (hb : Built placed.order) (hsub : ∀ p ∈ placed.order, p.table ∈ tables)
    (hwaiting : ∀ t ∈ waiting, t ∈ tables) :
    ∃ placed' rest, pass placed waiting = .ok (placed', rest) := by
  fun_induction pass placed waiting with
  | case1 placed => exact ⟨_, _, rfl⟩
  | case2 placed t waiting hstands ih =>
    obtain ⟨placed', rest, h⟩ := ih hb hsub fun t ht => hwaiting t (List.mem_cons_of_mem _ ht)
    exact ⟨placed', t :: rest, bind_eq_ok.2 ⟨_, h, rfl⟩⟩
  | case3 placed t waiting inherited hstands ih =>
    have ht := hwaiting t List.mem_cons_self
    obtain ⟨p, hplace⟩ := place_total hd hcovered hb hsub ht hstands
    have hp : p.table = t := table_of_place hplace
    obtain ⟨placed', rest, h⟩ := ih p (.snoc hb hstands hplace)
      (fun q hq => (List.mem_append.1 hq).elim (hsub q)
        fun hq => by rwa [List.mem_singleton.1 hq, hp])
      fun t ht => hwaiting t (List.mem_cons_of_mem _ ht)
    exact ⟨placed', rest, bind_eq_ok.2 ⟨p, hplace, h⟩⟩

end Total

/-- **Some waiting table is ready**, as long as parents are declared and links from the waiting come
to an end: following links from a waiting table, the last that waits has its parent placed. -/
theorem exists_ready
    (hparents : ∀ t ∈ tables, ∀ parent, t.parent = some parent → ∃ p ∈ tables, p.name = parent)
    (hall : (placed.order.map (·.table) ++ waiting).Perm tables)
    (hd : (tables.map Table.name).Nodup)
    (hends : Acc (Link tables) t.name) (ht : t ∈ waiting) :
    ∃ u ∈ waiting, (inheritedKey? placed u).isSome := by
  generalize hname : t.name = name at hends
  induction hends generalizing t with
  | intro name _ ih =>
    have htables : t ∈ tables := hall.mem_iff.1 (List.mem_append_right _ ht)
    cases hparent : t.parent with
    | none => exact ⟨t, ht, by simp [inheritedKey?, hparent]⟩
    | some parent =>
      obtain ⟨p, hp, rfl⟩ := hparents t htables parent hparent
      rcases List.mem_append.1 (hall.mem_iff.2 hp) with hp | hp
      · obtain ⟨q, hq, rfl⟩ := List.mem_map.1 hp
        refine ⟨t, ht, ?_⟩
        simp only [inheritedKey?, hparent, Option.isSome_map]
        exact List.find?_isSome.2 ⟨q, hq, by simp [PlacedTable.name]⟩
      · refine ih p.name ?_ hp rfl
        rw [Link, ← hname, parentOf?_of_mem hd htables, hparent]

/-- **No pass is in vain**, then: it meets the table that is ready. -/
theorem length_lt_of_ends
    (hparents : ∀ t ∈ tables, ∀ parent, t.parent = some parent → ∃ p ∈ tables, p.name = parent)
    (hall : (placed.order.map (·.table) ++ waiting).Perm tables)
    (hd : (tables.map Table.name).Nodup) (hends : ∀ t ∈ tables, Acc (Link tables) t.name)
    (hwaits : waiting ≠ []) (h : pass placed waiting = .ok (placed', rest)) :
    rest.length < waiting.length := by
  obtain ⟨t, ht⟩ := List.exists_mem_of_ne_nil waiting hwaits
  have htables : t ∈ tables := hall.mem_iff.1 (List.mem_append_right _ ht)
  obtain ⟨u, hu, hready⟩ := exists_ready hparents hall hd (hends t htables) ht
  exact length_lt_of_pass h hu hready

theorem passes_total (hd : (tables.map Table.name).Nodup)
    (hparents : ∀ t ∈ tables, ∀ parent, t.parent = some parent → ∃ p ∈ tables, p.name = parent)
    (hends : ∀ t ∈ tables, Acc (Link tables) t.name)
    (hcovered : ∀ t ∈ tables, ∀ a, Ancestor tables a t →
      ∀ column ∈ a.primaryKey, t.declares column = true)
    (hb : Built placed.order) (hall : (placed.order.map (·.table) ++ waiting).Perm tables) :
    ∃ layout, passes placed waiting = .ok layout := by
  have htotal : ∀ {placed : Layout} {waiting : List Table}, Built placed.order →
      (placed.order.map (·.table) ++ waiting).Perm tables →
      ∃ placed' rest, pass placed waiting = .ok (placed', rest) := fun hb hall =>
    pass_total hd hcovered hb (fun p hp =>
      hall.mem_iff.1 (List.mem_append_left _ (List.mem_map_of_mem hp)))
      fun t ht => hall.mem_iff.1 (List.mem_append_right _ ht)
  fun_induction passes placed waiting with
  | case1 placed waiting => exact ⟨placed, rfl⟩
  | case2 placed waiting _ e he =>
    obtain ⟨placed', rest, h⟩ := htotal hb hall
    nomatch h.symm.trans he
  | case3 placed waiting _ placed' rest hpass _ ih =>
    obtain ⟨hb', hperm⟩ := pass_ok hb hpass
    exact ih hb' (hperm.trans hall)
  | case4 placed waiting hsome placed' rest hpass hstuck =>
    exact absurd (length_lt_of_ends hparents hall hd hends (by simpa using hsome) hpass) hstuck

end Hierarchy

end Interleave
