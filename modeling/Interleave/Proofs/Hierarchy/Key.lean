import Interleave.Proofs.Hierarchy.Acceptance

/-!
# Full keys

A table is placed with the key of its parent and what its own declared key adds to that.

* `Built.key_of_root`, `Built.key_of_child`: this, read off the finished order.
* `Built.prefix_of_ancestor`: so the key of an ancestor comes first.
* `FullKey`, `fullKey_of_mem`: what the full key of a placed table is like.
* `fullKey_of_ofTables`: **every table is placed with such a key.** All its columns are declared,
  and they are `not null` in the text that creates the table.
-/

namespace Interleave

open Hierarchy Relation

/-- The columns as they stand in the text that creates the table, in declared order: a key column is
`not null`. -/
theorem PlacedTable.createText_columns (p : PlacedTable) : ∃ texts,
    p.createText = "create table " ++ p.name ++ " (" ++ ",".intercalate texts ++ ")" ++
      " PRIMARY KEY (" ++ ",".intercalate p.key ++ ")" ++ p.interleaving ∧
    List.Forall₂ (fun c text => c.name ∈ p.key →
      text = c.name ++ " " ++ c.targetType.token ++ " not null")
      p.table.columns texts := by
  refine ⟨_, rfl, ?_⟩
  rw [List.forall₂_map_right_iff, List.forall₂_same]
  intro c _ hkey
  have hcolumn : p.isKeyColumn c.name = true := List.contains_iff_mem.2 hkey
  rw [Column.declaration, hcolumn, Bool.true_or, if_pos rfl]

namespace Hierarchy

variable {tables : List Table} {layout : Layout} {order : List PlacedTable} {p : PlacedTable}
  {t a : Table} {parent : String}

/-- A full key can be read off the finished order. -/
theorem Built.exists_stands (hb : Built order) (hp : p ∈ order) : ∃ inherited,
    inheritedKey? ⟨order⟩ p.table = some inherited ∧
      p.key = inherited ++ p.table.primaryKey.filter fun column => !inherited.contains column := by
  induction hb with
  | nil => simp at hp
  | @snoc order t inherited new _ hstands hplace ih =>
    rcases List.mem_append.1 hp with hp | hp
    · obtain ⟨inherited, hstands, hkey⟩ := ih hp
      exact ⟨inherited, inheritedKey?_append hstands [new], hkey⟩
    · obtain rfl := List.mem_singleton.1 hp
      obtain ⟨-, rfl⟩ := place_eq_ok.1 hplace
      exact ⟨inherited, inheritedKey?_append hstands _, rfl⟩

theorem Built.key_of_root (hb : Built order) (hp : p ∈ order) (hroot : p.table.parent = none) :
    p.key = p.table.primaryKey := by
  obtain ⟨inherited, hstands, hkey⟩ := hb.exists_stands hp
  rcases inheritedKey?_eq_some.1 hstands with ⟨-, rfl⟩ | ⟨parent, q, hparent, -⟩
  · rw [hkey, List.nil_append, List.filter_eq_self.2 (by simp)]
  · nomatch hroot.symm.trans hparent

/-- A child's key continues its parent's. -/
theorem Built.key_of_child (hb : Built order) (hp : p ∈ order)
    (hparent : p.table.parent = some parent) :
    ∃ q, (⟨order⟩ : Layout).find? parent = some q ∧
      p.key = q.key ++ p.table.primaryKey.filter fun column => !q.key.contains column := by
  obtain ⟨inherited, hstands, hkey⟩ := hb.exists_stands hp
  rcases inheritedKey?_eq_some.1 hstands with ⟨hroot, -⟩ | ⟨name, q, hname, hfind, rfl⟩
  · nomatch hroot.symm.trans hparent
  · obtain rfl := Option.some.inj (hname.symm.trans hparent)
    exact ⟨q, hfind, hkey⟩

/-- A full key repeats no column, if the declared keys do not. -/
theorem Built.nodup_key (hb : Built order) (hdeclared : ∀ p ∈ order, p.table.primaryKey.Nodup)
    (hp : p ∈ order) :
    p.key.Nodup := by
  induction hb generalizing p with
  | nil => simp at hp
  | @snoc order t inherited new hb hstands hplace ih =>
    rcases List.mem_append.1 hp with hp | hp
    · exact ih (fun q hq => hdeclared q (List.mem_append_left _ hq)) hp
    obtain rfl := List.mem_singleton.1 hp
    obtain ⟨-, rfl⟩ := place_eq_ok.1 hplace
    have hown : t.primaryKey.Nodup := hdeclared _ (List.mem_append_right _ hp)
    have hinherited : inherited.Nodup := by
      rcases inheritedKey?_eq_some.1 hstands with ⟨-, rfl⟩ | ⟨parent, q, -, hfind, rfl⟩
      · exact List.nodup_nil
      · exact ih (fun q hq => hdeclared q (List.mem_append_left _ hq))
          (List.mem_of_find?_eq_some hfind)
    refine List.nodup_append.2 ⟨hinherited, hown.filter _, ?_⟩
    rintro column hcolumn _ hnew rfl
    simp [hcolumn] at hnew

section Distinct

variable (hd : (order.map (·.name)).Nodup) (hperm : (order.map (·.table)).Perm tables)
include hd hperm

/-- The key of an ancestor comes first. -/
theorem Built.prefix_of_ancestor (hb : Built order) (hp : p ∈ order)
    (ha : Ancestor tables a p.table) :
    ∃ q ∈ order, q.table = a ∧ q.key <+: p.key := by
  have hparent : ∀ {a p}, p ∈ order → IsParent tables a p.table →
      ∃ q ∈ order, q.table = a ∧ q.key <+: p.key := by
    intro a p hp ha
    obtain ⟨q, hq, rfl⟩ := List.mem_map.1 (hperm.mem_iff.2 ha.1)
    obtain ⟨q', hfind, hkey⟩ := hb.key_of_child hp ha.2.2
    obtain rfl : q = q' := Option.some.inj ((find?_of_nodup_map hd hq).symm.trans hfind)
    exact ⟨q, hq, rfl, hkey ▸ List.prefix_append _ _⟩
  generalize ht : p.table = t at ha
  induction ha generalizing p with
  | single h => exact hparent hp (ht ▸ h)
  | tail _ h ih =>
    obtain ⟨q, hq, rfl, hqp⟩ := hparent hp (ht ▸ h)
    obtain ⟨r, hr, hra, hrq⟩ := ih hq rfl
    exact ⟨r, hr, hra, hrq.trans hqp⟩

end Distinct

/-- What a layout of the tables says about the full key of `p`. -/
structure FullKey (tables : List Table) (layout : Layout) (p : PlacedTable) : Prop where
  root : p.table.parent = none → p.key = p.table.primaryKey
  /-- A child's key is its parent's, and then the columns of its own that the parent's lacks. -/
  child : ∀ parent, p.table.parent = some parent → ∃ q, layout.find? parent = some q ∧
    p.key = q.key ++ p.table.primaryKey.filter fun column => !q.key.contains column
  /-- The key of an ancestor comes first, however far the ancestor is. -/
  ancestor : ∀ a, Ancestor tables a p.table →
    ∃ q, layout.find? a.name = some q ∧ q.table = a ∧ q.key <+: p.key
  mem_iff : ∀ column, column ∈ p.key ↔
    ∃ a, (a = p.table ∨ Ancestor tables a p.table) ∧ column ∈ a.primaryKey
  ne_nil : p.key ≠ []
  declared : ∀ column ∈ p.key, ∃ c ∈ p.table.columns, c.name = column
  /-- The columns stand in the text that creates the table, those of the key with `not null`. -/
  mandatory : ∃ texts, p.createText =
    "create table " ++ p.name ++ " (" ++ ",".intercalate texts ++ ")" ++
      " PRIMARY KEY (" ++ ",".intercalate p.key ++ ")" ++ p.interleaving ∧
    List.Forall₂ (fun c text => c.name ∈ p.key →
      text = c.name ++ " " ++ c.targetType.token ++ " not null")
      p.table.columns texts
  /-- No column is repeated, unless a declared key repeats one. -/
  nodup : (∀ t ∈ tables, t.primaryKey.Nodup) → p.key.Nodup

/-- Every placed table has a full key. -/
theorem fullKey_of_mem (h : Layout.ofTables tables = .ok layout) (hp : p ∈ layout.order) :
    FullKey tables layout p := by
  have hsound := sound_of_ofTables h
  obtain ⟨hbuilt, hperm⟩ := built_of_ofTables h
  have hnames := nodup_names hsound.distinct
  have hsub : ∀ p ∈ layout.order, p.table ∈ tables :=
    fun p hp => hperm.mem_iff.1 (List.mem_map_of_mem hp)
  have hd := nodup_names_of_ofTables h
  have hmem : ∀ column, column ∈ p.key ↔
      ∃ a, (a = p.table ∨ Ancestor tables a p.table) ∧ column ∈ a.primaryKey :=
    fun column => hbuilt.mem_key hnames hsub hp
  refine ⟨hbuilt.key_of_root hp, fun parent => hbuilt.key_of_child hp, ?_, hmem, ?_, ?_,
    p.createText_columns, ?_⟩
  · intro a ha
    obtain ⟨q, hq, rfl, hprefix⟩ := hbuilt.prefix_of_ancestor hd hperm hp ha
    exact ⟨q, find?_of_nodup_map hd hq, rfl, hprefix⟩
  · obtain ⟨column, hcolumn⟩ := List.exists_mem_of_ne_nil _ (hsound.keyed _ (hsub p hp))
    exact List.ne_nil_of_mem ((hmem column).2 ⟨p.table, .inl rfl, hcolumn⟩)
  · intro column hcolumn
    obtain ⟨a, ha, hcolumn⟩ := (hmem column).1 hcolumn
    exact hsound.covered _ (hsub p hp) a ha column hcolumn
  · intro hdeclared
    exact hbuilt.nodup_key (fun q hq => hdeclared _ (hsub q hq)) hp

/-- **Full keys in a layout**: every table is placed, and has such a key. -/
theorem fullKey_of_ofTables (h : Layout.ofTables tables = .ok layout) (ht : t ∈ tables) :
    ∃ p, layout.find? t.name = some p ∧ p.table = t ∧ FullKey tables layout p := by
  obtain ⟨p, hp, rfl⟩ := List.mem_map.1 ((built_of_ofTables h).2.mem_iff.2 ht)
  exact ⟨p, find?_of_nodup_map (nodup_names_of_ofTables h) hp, rfl, fullKey_of_mem h hp⟩

def hotel : Table where
  name := "Hotel"
  columns := [{ name := "HotelId", type := .int64 }]
  primaryKey := ["HotelId"]

def room : Table where
  name := "Room"
  columns := [{ name := "HotelId", type := .int64 }, { name := "RoomId", type := .int64 }]
  primaryKey := ["HotelId", "RoomId"]
  parent := some "Hotel"

/-- Its declared key leaves out the room, and its hotel comes last. -/
def night : Table where
  name := "Night"
  columns := [{ name := "HotelId", type := .int64 }, { name := "RoomId", type := .int64 },
    { name := "Date", type := .date }]
  primaryKey := ["Date", "HotelId"]
  parent := some "Room"

theorem fullKey_of_night : ∃ layout p q, Layout.ofTables [night, room, hotel] = .ok layout ∧
    layout.find? "Night" = some p ∧ FullKey [night, room, hotel] layout p ∧
    p.key = ["HotelId", "RoomId", "Date"] ∧ p.key.Nodup ∧ layout.find? "Hotel" = some q ∧
    q.key <+: p.key := by
  obtain ⟨layout, h, hkey⟩ :=
    exists_ok_of_any (x := Layout.ofTables [night, room, hotel]) (p := fun layout =>
      (layout.find? "Night").any (·.key = ["HotelId", "RoomId", "Date"])) (by decide +kernel)
  obtain ⟨p, hp, htable, hfull⟩ := fullKey_of_ofTables h (t := night) (by decide)
  have hroom : IsParent [night, room, hotel] hotel room := ⟨by decide, by decide, rfl⟩
  have hnight : IsParent [night, room, hotel] room night := ⟨by decide, by decide, rfl⟩
  have hhotel : Ancestor [night, room, hotel] hotel p.table := by
    rw [htable]
    exact TransGen.tail (TransGen.single hroom) hnight
  obtain ⟨q, hq, -, hprefix⟩ := hfull.ancestor hotel hhotel
  have hcolumns : p.key = ["HotelId", "RoomId", "Date"] := by
    have hp : layout.find? "Night" = some p := hp
    rw [hp] at hkey
    exact of_decide_eq_true hkey
  exact ⟨layout, p, q, h, hp, hfull, hcolumns, hfull.nodup (by decide), hq, hprefix⟩

end Hierarchy

end Interleave
