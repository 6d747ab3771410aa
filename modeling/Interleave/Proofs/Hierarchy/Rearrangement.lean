import Interleave.Proofs.Hierarchy.Key
import Interleave.Proofs.Hierarchy.Siblings
import Interleave.Statement

/-!
# Tables in another order

A schema may declare its tables in any order. The passes then place them in another order, and a
table that one run places first can come last in the other.

* `Sound.perm`: whether tables are sound does not depend on their order.
* `Built.key_eq`: the full key of a table is the same in every order that can be built. It depends
  on the table and on its ancestors alone.
* `ofTables_perm`: **rearranged tables can be laid out if the tables can, and every table is placed
  alike.** So the order of declarations shows in the order of statements and in nothing else.
-/

namespace Interleave.Hierarchy

variable {tables tables' : List Table} {layout layout' : Layout} {order order' : List PlacedTable}
  {p p' : PlacedTable} {a t : Table} {name : String}

/-- Ancestry is a matter of the tables, not of their order. -/
theorem ancestor_perm (h : tables.Perm tables') : Ancestor tables a t ↔ Ancestor tables' a t := by
  have hparent : IsParent tables = IsParent tables' := by
    funext p t
    rw [IsParent, IsParent, h.mem_iff, h.mem_iff]
  rw [Ancestor, Ancestor, hparent]

theorem Sound.perm (hs : Sound tables) (h : tables.Perm tables') : Sound tables' := by
  have hmem : ∀ {t}, t ∈ tables' → t ∈ tables := fun ht => h.mem_iff.2 ht
  refine ⟨(h.map _).nodup_iff.1 hs.distinct, fun t ht => hs.keyed t (hmem ht), ?_, ?_, ?_⟩
  · intro t ht parent hparent
    obtain ⟨p, hp, hname⟩ := hs.parents t (hmem ht) parent hparent
    exact ⟨p, h.mem_iff.1 hp, hname⟩
  · intro t ht hcycle
    exact hs.acyclic t (hmem ht) ((ancestor_perm h).2 hcycle)
  · intro t ht a ha column hcolumn
    exact hs.covered t (hmem ht) a (ha.imp_right (ancestor_perm h).2) column hcolumn

/-- The placed table that is found under its own name. -/
theorem find?_eq_some_iff (hd : (order.map (·.name)).Nodup) :
    (⟨order⟩ : Layout).find? name = some p ↔ p ∈ order ∧ p.name = name := by
  constructor
  · intro hfind
    exact ⟨List.mem_of_find?_eq_some hfind, by simpa using List.find?_some hfind⟩
  · rintro ⟨hp, rfl⟩
    exact find?_of_nodup_map hd hp

/-- **A table has one full key**, whatever the order in which it and its ancestors are placed. -/
theorem Built.key_eq (hb : Built order) (hb' : Built order') (hd : (order'.map (·.name)).Nodup)
    (hsub : ∀ q ∈ order, q.table ∈ order'.map (·.table)) (hp : p ∈ order) (hp' : p' ∈ order')
    (htable : p.table = p'.table) : p.key = p'.key := by
  -- along the first order: a parent is placed before its child, so their keys are compared already
  induction hb generalizing p p' with
  | nil => simp at hp
  | @snoc order t inherited new _ hstands hplace ih =>
    have hbefore : ∀ q ∈ order, q.table ∈ order'.map (·.table) :=
      fun q hq => hsub q (List.mem_append_left _ hq)
    rcases List.mem_append.1 hp with hp | hp
    · exact ih hbefore hp hp' htable
    obtain rfl := List.mem_singleton.1 hp
    obtain ⟨-, rfl⟩ := place_eq_ok.1 hplace
    obtain rfl : t = p'.table := htable
    rcases inheritedKey?_eq_some.1 hstands with ⟨hroot, rfl⟩ | ⟨parent, q, hparent, hfind, rfl⟩
    · have hkey : p'.key = p'.table.primaryKey := hb'.key_of_root hp' hroot
      rw [hkey, List.nil_append, List.filter_eq_self.2 (by simp)]
    · have hq : q ∈ order := List.mem_of_find?_eq_some hfind
      have hqname : q.name = parent := by simpa using List.find?_some hfind
      obtain ⟨q', hfind', hkey⟩ := hb'.key_of_child hp' hparent
      obtain ⟨r, hr, hrtable⟩ := List.mem_map.1 (hbefore q hq)
      -- the parent that the second order knows by this name is the same table
      have hrname : r.name = parent := (congrArg Table.name hrtable).trans hqname
      have hrfind := (find?_eq_some_iff hd).2 ⟨hr, hrname⟩
      obtain rfl : r = q' := Option.some.inj (hrfind.symm.trans hfind')
      have hkeys : q.key = r.key := ih hbefore hq hr hrtable.symm
      rw [hkey, hkeys]

/-- Orders of the same tables consist of the same placed tables. -/
theorem Built.perm_of_tables (hb : Built order) (hb' : Built order')
    (hd : (order.map (·.name)).Nodup) (h : (order.map (·.table)).Perm (order'.map (·.table))) :
    order.Perm order' := by
  have hnames : (order.map (·.name)).Perm (order'.map (·.name)) := by
    have hmap := h.map Table.name
    rwa [List.map_map, List.map_map] at hmap
  have hd' : (order'.map (·.name)).Nodup := hnames.nodup_iff.1 hd
  have hsub : ∀ q ∈ order, q.table ∈ order'.map (·.table) :=
    fun q hq => h.mem_iff.1 (List.mem_map_of_mem hq)
  have hsame : ∀ q ∈ order, ∀ q' ∈ order', q'.table = q.table → q = q' := by
    intro q hq q' hq' htable
    have hkey := hb.key_eq hb' hd' hsub hq hq' htable.symm
    cases q
    cases q'
    cases htable
    cases hkey
    rfl
  refine (List.perm_ext_iff_of_nodup hd.of_map hd'.of_map).2 fun q => ⟨fun hq => ?_, fun hq => ?_⟩
  · obtain ⟨q', hq', htable⟩ := List.mem_map.1 (hsub q hq)
    rwa [hsame q hq q' hq' htable]
  · obtain ⟨q', hq', htable⟩ := List.mem_map.1 (h.mem_iff.2 (List.mem_map_of_mem hq))
    rwa [← hsame q' hq' q hq htable.symm]

/-- **Rearranged tables are accepted if the tables are, and every table is placed alike.** The
statements that create and drop them are the same, up to their order. -/
theorem ofTables_perm (h : tables.Perm tables') :
    ((∃ layout, Layout.ofTables tables = .ok layout) ↔
      ∃ layout, Layout.ofTables tables' = .ok layout) ∧
      ∀ layout layout', Layout.ofTables tables = .ok layout →
        Layout.ofTables tables' = .ok layout' →
        (∀ t ∈ tables, ∃ p, p.table = t ∧ layout.find? t.name = some p ∧
          layout'.find? t.name = some p) ∧
        (layout.order.map Statement.createTable).Perm (layout'.order.map Statement.createTable) ∧
        (layout.removalOrder.map fun p => Statement.dropTable p.name).Perm
          (layout'.removalOrder.map fun p => Statement.dropTable p.name) := by
  refine ⟨?_, fun layout layout' hlayout hlayout' => ?_⟩
  · have hmove : ∀ {l l' : List Table}, l.Perm l' → (∃ layout, Layout.ofTables l = .ok layout) →
        ∃ layout, Layout.ofTables l' = .ok layout :=
      fun hl ⟨_, hlayout⟩ => ofTables_of_sound ((sound_of_ofTables hlayout).perm hl)
    exact ⟨hmove h, hmove h.symm⟩
  obtain ⟨hbuilt, hplaced⟩ := built_of_ofTables hlayout
  obtain ⟨hbuilt', hplaced'⟩ := built_of_ofTables hlayout'
  have hd := nodup_names_of_ofTables hlayout
  have hd' := nodup_names_of_ofTables hlayout'
  have horder : layout.order.Perm layout'.order :=
    hbuilt.perm_of_tables hbuilt' hd ((hplaced.trans h).trans hplaced'.symm)
  have hremoval : layout.removalOrder.Perm layout'.removalOrder :=
    ((List.reverse_perm _).trans horder).trans (List.reverse_perm _).symm
  refine ⟨fun t ht => ?_, horder.map _, hremoval.map _⟩
  obtain ⟨p, hp, rfl⟩ := List.mem_map.1 (hplaced.mem_iff.2 ht)
  have hp' : p ∈ layout'.order := horder.mem_iff.1 hp
  exact ⟨p, rfl, (find?_eq_some_iff hd).2 ⟨hp, rfl⟩, (find?_eq_some_iff hd').2 ⟨hp', rfl⟩⟩

/-- The passes take the tables of a house in another order, and nothing else changes. -/
theorem ofTables_perm_house : ∃ layout layout', [cellar, house, attic].Perm [attic, house, cellar] ∧
    Layout.ofTables [cellar, house, attic] = .ok layout ∧
    Layout.ofTables [attic, house, cellar] = .ok layout' ∧
    layout.order.map (·.table) = [house, attic, cellar] ∧
    layout'.order.map (·.table) = [house, cellar, attic] ∧
    (∃ p, p.table = attic ∧ layout.find? "Attic" = some p ∧ layout'.find? "Attic" = some p) ∧
    (layout.order.map Statement.createTable).Perm (layout'.order.map Statement.createTable) := by
  obtain ⟨layout, hlayout, horder⟩ := exists_ok_of_any (x := Layout.ofTables [cellar, house, attic])
    (p := fun layout => layout.order.map (·.table) = [house, attic, cellar]) (by decide +kernel)
  obtain ⟨layout', hlayout', horder'⟩ :=
    exists_ok_of_any (x := Layout.ofTables [attic, house, cellar])
      (p := fun layout => layout.order.map (·.table) = [house, cellar, attic]) (by decide +kernel)
  have hperm : [cellar, house, attic].Perm [attic, house, cellar] := by decide
  obtain ⟨hplaced, hcreates, -⟩ := (ofTables_perm hperm).2 layout layout' hlayout hlayout'
  exact ⟨layout, layout', hperm, hlayout, hlayout', of_decide_eq_true horder,
    of_decide_eq_true horder', hplaced attic (by simp), hcreates⟩

end Interleave.Hierarchy
