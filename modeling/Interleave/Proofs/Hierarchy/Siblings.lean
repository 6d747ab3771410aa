import Interleave.Proofs.Hierarchy.Acceptance
import Interleave.Proofs.Precedes

/-!
# The order of siblings

A pass places a child as soon as it meets it behind its parent. So a child that is declared behind
its parent is placed in the parent's own pass, and one that is declared before it in the next.

* `siblings`: the tables with one parent, or the roots.
* `pass_of_stands`, `pass_of_not_stands`: what a pass does to such a group, if the parent stands and
  if it is not met.
* `roots_of_ofTables`: **roots keep their order.**
* `children_of_ofTables`: **of the children of a table, those behind it come first, and then those
  before it.**
* `siblings_keep_order_iff`: so siblings keep their order unless the parent is declared between
  them.
-/

namespace Interleave.Hierarchy

variable {tables waiting rest before after : List Table} {placed placed' layout : Layout}
  {s t parent : Table} {group : Option String} {name : String}

/-- The tables that name this parent, or the roots. -/
def siblings (parent : Option String) (tables : List Table) : List Table :=
  tables.filter (·.parent == parent)

/-- The siblings that are placed, in creation order. -/
def placedOf (parent : Option String) (placed : Layout) : List Table :=
  siblings parent (placed.order.map (·.table))

/-- The parent is placed. Roots need none. -/
def Stands (placed : Layout) (parent : Option String) : Prop :=
  ∀ name, parent = some name → ∃ q ∈ placed.order, q.name = name

theorem siblings_append (first second : List Table) :
    siblings group (first ++ second) = siblings group first ++ siblings group second :=
  List.filter_append first second

theorem siblings_cons (t : Table) (tables : List Table) :
    siblings group (t :: tables) = siblings group [t] ++ siblings group tables :=
  siblings_append [t] tables

theorem siblings_singleton_of_ne (h : t.parent ≠ group) : siblings group [t] = [] := by
  simp [siblings, h]

theorem precedes_siblings (hs : s.parent = group) (ht : t.parent = group) :
    Precedes (siblings group tables) s t ↔ Precedes tables s t :=
  precedes_filter (by simpa using hs) (by simpa using ht)

theorem placedOf_append (placed : Layout) (p : PlacedTable) :
    placedOf group ⟨placed.order ++ [p]⟩ = placedOf group placed ++ siblings group [p.table] := by
  rw [placedOf, List.map_append, siblings_append]
  rfl

theorem stands_some : Stands placed (some name) ↔ ∃ q ∈ placed.order, q.name = name := by
  simp [Stands]

theorem Stands.append (h : Stands placed group) (more : List PlacedTable) :
    Stands ⟨placed.order ++ more⟩ group := by
  intro name hname
  obtain ⟨q, hq, hqname⟩ := h name hname
  exact ⟨q, List.mem_append_left _ hq, hqname⟩

theorem inheritedKey?_isSome : (inheritedKey? placed t).isSome ↔ Stands placed t.parent := by
  unfold inheritedKey? Stands
  cases t.parent with
  | none => simp
  | some name => simp [Layout.find?, List.find?_isSome]

/-- A group whose parent stands is placed by one pass, in order. -/
theorem pass_of_stands (h : pass placed waiting = .ok (placed', rest))
    (hstands : Stands placed group) :
    Stands placed' group ∧
      placedOf group placed' = placedOf group placed ++ siblings group waiting ∧
      siblings group rest = [] := by
  induction waiting generalizing placed rest with
  | nil =>
    obtain ⟨rfl, rfl⟩ := Prod.mk.inj (Except.ok.inj h)
    exact ⟨hstands, (List.append_nil _).symm, rfl⟩
  | cons t waiting ih =>
    rw [siblings_cons]
    cases hkey : inheritedKey? placed t with
    | none =>
      obtain ⟨rest', hpass, rfl⟩ := (pass_cons_of_none hkey).1 h
      have hother : siblings group [t] = [] := siblings_singleton_of_ne fun hgroup => by
        have hsome := inheritedKey?_isSome.2 (hgroup ▸ hstands)
        rw [hkey] at hsome
        nomatch hsome
      rw [siblings_cons t rest', hother, List.nil_append, List.nil_append]
      exact ih hpass hstands
    | some inherited =>
      obtain ⟨p, hplace, hpass⟩ := (pass_cons_of_some hkey).1 h
      obtain ⟨hstands', hplaced, hrest⟩ := ih hpass (hstands.append [p])
      refine ⟨hstands', ?_, hrest⟩
      rw [hplaced, placedOf_append, table_of_place hplace, List.append_assoc]

/-- A group whose parent is neither placed nor met waits through a pass, in order. -/
theorem pass_of_not_stands (h : pass placed waiting = .ok (placed', rest))
    (hnot : ¬ Stands placed (some name)) (hmet : ∀ t ∈ waiting, t.name ≠ name) :
    ¬ Stands placed' (some name) ∧ placedOf (some name) placed' = placedOf (some name) placed ∧
      siblings (some name) rest = siblings (some name) waiting := by
  induction waiting generalizing placed rest with
  | nil =>
    obtain ⟨rfl, rfl⟩ := Prod.mk.inj (Except.ok.inj h)
    exact ⟨hnot, rfl, rfl⟩
  | cons t waiting ih =>
    obtain ⟨hname, hmet⟩ := List.forall_mem_cons.1 hmet
    rw [siblings_cons]
    cases hkey : inheritedKey? placed t with
    | none =>
      obtain ⟨rest, hpass, rfl⟩ := (pass_cons_of_none hkey).1 h
      obtain ⟨hnot', hplaced, hrest⟩ := ih hpass hnot hmet
      exact ⟨hnot', hplaced, by rw [siblings_cons, hrest]⟩
    | some inherited =>
      obtain ⟨p, hplace, hpass⟩ := (pass_cons_of_some hkey).1 h
      have hother : siblings (some name) [t] = [] := siblings_singleton_of_ne fun hgroup =>
        hnot (hgroup ▸ inheritedKey?_isSome.1 (by rw [hkey]; rfl))
      have hstill : ¬ Stands ⟨placed.order ++ [p]⟩ (some name) := by
        have hpname : p.name ≠ name := by rwa [PlacedTable.name, table_of_place hplace]
        rw [stands_some] at hnot ⊢
        simpa [or_imp, forall_and, hpname] using hnot
      obtain ⟨hnot', hplaced, hrest⟩ := ih hpass hstill hmet
      refine ⟨hnot', ?_, ?_⟩
      · rw [hplaced, placedOf_append, table_of_place hplace, hother, List.append_nil]
      · rw [hrest, hother, List.nil_append]

/-- Later passes have nothing to add to it. -/
theorem passes_of_stands (h : passes placed waiting = .ok layout) (hstands : Stands placed group) :
    placedOf group layout = placedOf group placed ++ siblings group waiting := by
  fun_induction passes placed waiting with
  | case1 placed waiting hnone =>
    obtain rfl := Except.ok.inj h
    rw [List.isEmpty_iff.1 hnone]
    exact (List.append_nil _).symm
  | case2 => cases h
  | case3 placed waiting _ placed' rest hpass _ ih =>
    obtain ⟨hstands', hplaced, hrest⟩ := pass_of_stands hpass hstands
    rw [ih h hstands', hrest, hplaced, List.append_nil]
  | case4 => cases h

/-- Children behind their parent are placed first, and then those before it, whatever pass it is
that places the parent. -/
theorem passes_of_not_stands (h : passes placed (before ++ parent :: after) = .ok layout)
    (hnot : ¬ Stands placed (some parent.name)) (hmet : ∀ t ∈ before ++ after, t.name ≠ parent.name)
    (hself : parent.parent ≠ some parent.name) :
    placedOf (some parent.name) layout = placedOf (some parent.name) placed ++
      (siblings (some parent.name) after ++ siblings (some parent.name) before) := by
  generalize hwaiting : before ++ parent :: after = waiting at h
  fun_induction passes placed waiting generalizing before after with
  | case1 placed waiting hnone => simp [← hwaiting] at hnone
  | case2 => cases h
  | case3 placed waiting _ placed' rest hpass _ ih =>
    subst hwaiting
    obtain ⟨hbefore, hafter⟩ := List.forall_mem_append.1 hmet
    obtain ⟨between, r₁, r₂, hpass₁, hpass₂, rfl⟩ := pass_append hpass
    obtain ⟨hnot₁, hplaced₁, hrest₁⟩ := pass_of_not_stands hpass₁ hnot hbefore
    cases hkey : inheritedKey? between parent with
    | none =>
      -- the parent waits for another pass, and its children with it
      obtain ⟨r₂', hpass₂', rfl⟩ := (pass_cons_of_none hkey).1 hpass₂
      obtain ⟨hnot₂, hplaced₂, hrest₂⟩ := pass_of_not_stands hpass₂' hnot₁ hafter
      have hmet' : ∀ t ∈ r₁ ++ r₂', t.name ≠ parent.name := fun t ht => hmet t
        (((sublist_of_pass hpass₁).append (sublist_of_pass hpass₂')).subset ht)
      rw [ih hnot₂ hmet' rfl h, hplaced₂, hplaced₁, hrest₁, hrest₂]
    | some inherited =>
      -- the parent is placed: the children behind it are met in this pass, the others in the next
      obtain ⟨p, hplace, hpass₂'⟩ := (pass_cons_of_some hkey).1 hpass₂
      have hp := table_of_place hplace
      have hstands : Stands ⟨between.order ++ [p]⟩ (some parent.name) :=
        stands_some.2 ⟨p, by simp, by rw [PlacedTable.name, hp]⟩
      obtain ⟨hstands', hplaced₂, hrest₂⟩ := pass_of_stands hpass₂' hstands
      rw [passes_of_stands h hstands', hplaced₂, placedOf_append, hp,
        siblings_singleton_of_ne hself, hplaced₁, siblings_append, hrest₁, hrest₂]
      simp only [List.append_nil, List.append_assoc]
  | case4 => cases h

/-- **Roots keep their order.** -/
theorem roots_of_ofTables (h : Layout.ofTables tables = .ok layout) :
    placedOf none layout = siblings none tables :=
  passes_of_stands (ofTables_eq_ok.1 h).2.2.2 (by simp [Stands])

theorem ne_of_isParent (h : Layout.ofTables tables = .ok layout) (hp : IsParent tables parent t) :
    t ≠ parent :=
  ((sound_of_ofTables h).ne_of_ancestor (.single hp)).symm

/-- **Of the children of one table, those behind it come first, and then those before it**, each in
order. -/
theorem children_of_ofTables (h : Layout.ofTables (before ++ parent :: after) = .ok layout) :
    placedOf (some parent.name) layout =
      siblings (some parent.name) after ++ siblings (some parent.name) before := by
  have hnames := nodup_names (sound_of_ofTables h).distinct
  rw [List.map_append, List.map_cons, List.nodup_middle, ← List.map_append] at hnames
  have hmem : parent ∈ before ++ parent :: after := List.mem_append_right _ List.mem_cons_self
  refine passes_of_not_stands (ofTables_eq_ok.1 h).2.2.2 (by simp [Stands]) ?_ ?_
  · intro t ht hname
    exact (List.nodup_cons.1 hnames).1 (hname ▸ List.mem_map_of_mem ht)
  · intro hself
    exact ne_of_isParent h ⟨hmem, hmem, hself⟩ rfl

/-- Two children keep their order unless the parent stands between them. -/
theorem children_keep_order_iff (h : Layout.ofTables (before ++ parent :: after) = .ok layout)
    (hst : Precedes (before ++ parent :: after) s t) (hs : s.parent = some parent.name)
    (ht : t.parent = some parent.name) :
    Precedes (layout.order.map (·.table)) s t ↔ ¬ (s ∈ before ∧ t ∈ after) := by
  have hnodup := (sound_of_ofTables h).nodup
  have hapart := List.disjoint_of_nodup_append (List.nodup_cons.1 (List.nodup_middle.1 hnodup)).2
  have hmem : parent ∈ before ++ parent :: after := List.mem_append_right _ List.mem_cons_self
  have hsp : s ≠ parent := ne_of_isParent h ⟨hmem, hst.mem_left, hs⟩
  have htp : t ≠ parent := ne_of_isParent h ⟨hmem, hst.mem_right, ht⟩
  rw [← precedes_siblings hs ht]
  change Precedes (placedOf _ layout) s t ↔ _
  rw [children_of_ofTables h, precedes_append, precedes_siblings hs ht, precedes_siblings hs ht]
  rw [precedes_append, precedes_cons_of_ne hsp] at hst
  constructor
  · rintro (hlater | ⟨hlater, -⟩ | hearlier) ⟨hbefore, hafter⟩
    · exact hapart hbefore hlater.mem_left
    · exact hapart hbefore (List.mem_of_mem_filter hlater)
    · exact hapart hearlier.mem_right hafter
  · intro hnot
    rcases hst with hearlier | ⟨hbefore, hafter⟩ | hlater
    · exact .inr (.inr hearlier)
    · exact absurd ⟨hbefore, (List.mem_cons.1 hafter).resolve_left htp⟩ hnot
    · exact .inl hlater

/-- **Tables with one parent keep their order unless the parent stands between them.** Roots always
do. -/
theorem siblings_keep_order_iff (h : Layout.ofTables tables = .ok layout)
    (hst : Precedes tables s t) (hsame : s.parent = t.parent) :
    Precedes (layout.order.map (·.table)) s t ↔
      ∀ p ∈ tables, s.parent = some p.name → ¬ (Precedes tables s p ∧ Precedes tables p t) := by
  have hsound := sound_of_ofTables h
  have hnames := nodup_names hsound.distinct
  cases hparent : s.parent with
  | none =>
    rw [hparent] at hsame
    rw [← precedes_siblings hparent hsame.symm]
    change Precedes (placedOf none layout) s t ↔ _
    rw [roots_of_ofTables h, precedes_siblings hparent hsame.symm]
    simp [hst]
  | some name =>
    rw [hparent] at hsame
    obtain ⟨p, hp, rfl⟩ := hsound.parents s hst.mem_left name hparent
    obtain ⟨before, after, rfl⟩ := List.append_of_mem hp
    have honce := (List.nodup_cons.1 (List.nodup_middle.1 hnames.of_map)).1
    have hsp : s ≠ p := ne_of_isParent h ⟨hp, hst.mem_left, hparent⟩
    rw [children_keep_order_iff h hst hparent hsame.symm, ← precedes_middle_left honce hsp,
      ← precedes_middle_right honce]
    constructor
    · intro hnot q hq hname
      rwa [← eq_of_name_eq hnames hp hq (Option.some.inj hname)]
    · intro hall
      exact hall p hp rfl

def house : Table where
  name := "House"
  columns := [{ name := "HouseId", type := .int64 }]
  primaryKey := ["HouseId"]

def cellar : Table where
  name := "Cellar"
  columns := [{ name := "HouseId", type := .int64 }, { name := "CellarId", type := .int64 }]
  primaryKey := ["CellarId"]
  parent := some "House"

def attic : Table where
  name := "Attic"
  columns := [{ name := "HouseId", type := .int64 }, { name := "AtticId", type := .int64 }]
  primaryKey := ["AtticId"]
  parent := some "House"

theorem siblings_keep_order_before_house : ∃ layout,
    Layout.ofTables [cellar, attic, house] = .ok layout ∧
    Precedes [cellar, attic, house] cellar attic ∧ cellar.parent = attic.parent ∧
    Precedes (layout.order.map (·.table)) cellar attic := by
  obtain ⟨layout, h, -⟩ := exists_ok_of_any (x := Layout.ofTables [cellar, attic, house])
    (p := fun _ => true) (by decide +kernel)
  have hst : Precedes [cellar, attic, house] cellar attic := by decide
  exact ⟨layout, h, hst, rfl, (siblings_keep_order_iff h hst rfl).2 (by decide)⟩

/-- **Siblings on two sides of their parent change places.** -/
theorem siblings_change_places_around_house : ∃ layout,
    Layout.ofTables [cellar, house, attic] = .ok layout ∧
    Precedes [cellar, house, attic] cellar attic ∧ cellar.parent = attic.parent ∧
    ¬ Precedes (layout.order.map (·.table)) cellar attic ∧
    layout.order.map (·.table) = [house, attic, cellar] := by
  obtain ⟨layout, h, horder⟩ := exists_ok_of_any (x := Layout.ofTables [cellar, house, attic])
    (p := fun layout => layout.order.map (·.table) = [house, attic, cellar]) (by decide +kernel)
  have horder := of_decide_eq_true horder
  exact ⟨layout, h, by decide, rfl, by rw [horder]; decide, horder⟩

end Interleave.Hierarchy
