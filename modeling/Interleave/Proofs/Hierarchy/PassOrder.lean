import Interleave.Proofs.Hierarchy.Rearrangement

/-!
# The order of passes

A pass places what it is ready for, in the order of the input. So the finished order is the input
sorted by the number of the pass, and this number can be told without any pass.

* `lineage`: a table and its ancestors, as parent links are followed.
* `passNumber`: how many links of the lineage point forward, to a parent that is declared behind its
  child.
* `PassNumbers`: what numbers do that belong to passes: a table has its parent's number, and one
  more if its link points forward. `passNumber` has this property (`passNumbers_of_sound`).
* `pass_of_ready`: what one pass does, if it is known for which tables it is ready.
* `PassNumbers.eq_iff`, `stands_iff_number`: pass `k` is ready for the tables of number `k` when it
  meets them.
* `pass_of_number`, `passes_sort`: so pass `k` places these, and the passes sort.
* `order_eq_sorted`: **the finished order is the input sorted by pass and position.**
-/

namespace Interleave.Hierarchy

variable {tables ahead ahead' waiting rest before after : List Table}
  {placed placed' between layout : Layout} {p s t : Table} {number : Table → Nat}
  {ready : Table → Bool} {k : Nat}

/-- The table, its parent, the parent of that, and so on. The tables not passed yet are `ahead`;
each step takes one of them, so the links are followed once at most. -/
def lineage (ahead : List Table) (t : Table) : List Table :=
  match t.parent with
  | none => [t]
  | some parent => match _found : ahead.find? (·.name == parent) with
    | none => [t]
    | some p => t :: lineage (others parent ahead) p
termination_by ahead.length
decreasing_by exact length_others_lt _found

/-- The parent is declared behind the table. -/
def pointsForward (tables : List Table) (t : Table) : Bool :=
  (t.parent.bind fun parent => tables.find? (·.name == parent)).any fun p =>
    decide (Precedes tables t p)

/-- The number of links, from the table up to its root, that point forward. -/
def passNumber (tables : List Table) (t : Table) : Nat :=
  (lineage tables t).countP (pointsForward tables)

/-- `s` does not come after `t`: by the number of the pass first, by position in the input second.
-/
def passOrder (tables : List Table) (s t : Table) : Bool :=
  passNumber tables s < passNumber tables t ||
    (passNumber tables s == passNumber tables t && tables.idxOf s ≤ tables.idxOf t)

/-- Numbers of the passes that place the tables. -/
structure PassNumbers (tables : List Table) (number : Table → Nat) : Prop where
  root : ∀ t ∈ tables, t.parent = none → number t = 0
  /-- A child behind its parent is placed in the same pass, -/
  behind : ∀ p t, IsParent tables p t → Precedes tables p t → number t = number p
  /-- and a child before its parent in the next one. -/
  before : ∀ p t, IsParent tables p t → Precedes tables t p → number t = number p + 1

/-! ## Lineages -/

section Distinct

variable (hd : (tables.map Table.name).Nodup)
include hd

/-- A parent is found among any tables that it belongs to. -/
theorem find?_of_isParent (hsub : ∀ a ∈ ahead, a ∈ tables) (hp : IsParent tables p t)
    (hmem : p ∈ ahead) :
    ahead.find? (·.name == p.name) = some p := by
  cases hfind : ahead.find? (·.name == p.name) with
  | none => simpa using List.find?_eq_none.1 hfind p hmem
  | some q =>
    have hname : q.name = p.name := by simpa using List.find?_some hfind
    rw [eq_of_name_eq hd (hsub q (List.mem_of_find?_eq_some hfind)) hp.1 hname]

theorem lineage_cons (hsub : ∀ a ∈ ahead, a ∈ tables) (hp : IsParent tables p t)
    (hmem : p ∈ ahead) :
    lineage ahead t = t :: lineage (others p.name ahead) p := by
  have hfind := find?_of_isParent hd hsub hp hmem
  rw [lineage, hp.2.2]
  dsimp only
  split
  · next hnone => exact absurd (hfind.symm.trans hnone) (by simp)
  · next q hq => rw [Option.some.inj (hq.symm.trans hfind)]

end Distinct

/-- The tables that are left when the parent is taken still have its ancestors. -/
theorem mem_others_of_ancestor (hs : Sound tables) (hp : IsParent tables p t)
    (hall : ∀ a, Ancestor tables a t → a ∈ ahead) (a : Table) (ha : Ancestor tables a p) :
    a ∈ others p.name ahead := by
  have hne : a.name ≠ p.name := by
    intro hname
    rw [eq_of_name_eq (nodup_names hs.distinct) ha.mem_left hp.1 hname] at ha
    exact hs.acyclic p hp.1 ha
  exact List.mem_filter.2 ⟨hall a (ha.tail hp), by simpa using hne⟩

/-- Tables that are no ancestors make no difference. -/
theorem lineage_congr (hs : Sound tables) (hsub : ∀ a ∈ ahead, a ∈ tables)
    (hsub' : ∀ a ∈ ahead', a ∈ tables) (hall : ∀ a, Ancestor tables a t → a ∈ ahead)
    (hall' : ∀ a, Ancestor tables a t → a ∈ ahead') (ht : t ∈ tables) :
    lineage ahead t = lineage ahead' t := by
  have hd := nodup_names hs.distinct
  fun_induction lineage ahead t generalizing ahead' with
  | case1 ahead t hroot => rw [lineage, hroot]
  | case2 ahead t parent hparent hnone =>
    obtain ⟨p, hp, rfl⟩ := hs.parents t ht parent hparent
    have hpt : IsParent tables p t := ⟨hp, ht, hparent⟩
    have hfind := find?_of_isParent hd hsub hpt (hall p (.single hpt))
    exact absurd (hfind.symm.trans hnone) (by simp)
  | case3 ahead t parent hparent p hfind ih =>
    obtain ⟨q, hq, rfl⟩ := hs.parents t ht parent hparent
    have hqt : IsParent tables q t := ⟨hq, ht, hparent⟩
    obtain rfl : q = p :=
      Option.some.inj ((find?_of_isParent hd hsub hqt (hall q (.single hqt))).symm.trans hfind)
    rw [lineage_cons hd hsub' hqt (hall' q (.single hqt))]
    exact congrArg (t :: ·) (ih (fun a ha => hsub a (List.mem_of_mem_filter ha))
      (fun a ha => hsub' a (List.mem_of_mem_filter ha)) (mem_others_of_ancestor hs hqt hall)
      (mem_others_of_ancestor hs hqt hall') hq)

/-- **The lineage of a child** is the child and the lineage of its parent. -/
theorem lineage_of_isParent (hs : Sound tables) (hp : IsParent tables p t) :
    lineage tables t = t :: lineage tables p := by
  have hothers : lineage (others p.name tables) p = lineage tables p :=
    lineage_congr hs (fun _ ha => List.mem_of_mem_filter ha) (fun _ ha => ha)
      (mem_others_of_ancestor hs hp fun _ ha => ha.mem_left) (fun _ ha => ha.mem_left) hp.1
  rw [lineage_cons (nodup_names hs.distinct) (fun _ ha => ha) hp hp.1, hothers]

theorem pointsForward_iff (hs : Sound tables) (hp : IsParent tables p t) :
    pointsForward tables t = true ↔ Precedes tables t p := by
  rw [pointsForward, hp.2.2, Option.bind_some, find?_of_mem (nodup_names hs.distinct) hp.1]
  simp

/-- **Counting forward links gives the numbers of passes.** -/
theorem passNumbers_of_sound (hs : Sound tables) : PassNumbers tables (passNumber tables) := by
  have hnodup : tables.Nodup := hs.nodup
  have hchild : ∀ p t, IsParent tables p t →
      passNumber tables t =
        passNumber tables p + if pointsForward tables t = true then 1 else 0 := by
    intro p t hp
    rw [passNumber, lineage_of_isParent hs hp, List.countP_cons, passNumber]
  refine ⟨fun t _ hroot => ?_, fun p t hp hbehind => ?_, fun p t hp hbefore => ?_⟩
  · have hnot : pointsForward tables t = false := by rw [pointsForward, hroot]; rfl
    rw [passNumber, lineage, hroot]
    simp [hnot]
  · rw [hchild p t hp, if_neg fun h => ((pointsForward_iff hs hp).1 h).asymm hnodup hbehind]
    rfl
  · rw [hchild p t hp, if_pos ((pointsForward_iff hs hp).2 hbefore)]

/-! ## One pass and all passes -/

/-- **What a pass does** if it is ready, when it meets a table, exactly for those of one property:
these are placed in order, and the others wait in order. -/
theorem pass_of_ready (h : pass placed waiting = .ok (placed', rest))
    (hready : ∀ before t after between, waiting = before ++ t :: after →
      between.order.map (·.table) = placed.order.map (·.table) ++ before.filter ready →
      ((inheritedKey? between t).isSome ↔ ready t = true)) :
    placed'.order.map (·.table) = placed.order.map (·.table) ++ waiting.filter ready ∧
      rest = waiting.filter fun t => !ready t := by
  induction waiting generalizing placed rest with
  | nil =>
    obtain ⟨rfl, rfl⟩ := Prod.mk.inj (Except.ok.inj h)
    exact ⟨(List.append_nil _).symm, rfl⟩
  | cons t waiting ih =>
    have hfirst := hready [] t waiting placed rfl (List.append_nil _).symm
    cases hkey : inheritedKey? placed t with
    | none =>
      have hnot : ready t = false := by simpa [hkey] using hfirst
      obtain ⟨rest, hpass, rfl⟩ := (pass_cons_of_none hkey).1 h
      obtain ⟨hplaced, hrest⟩ := ih hpass fun before u after between hsplit hbetween =>
        hready (t :: before) u after between (by rw [hsplit, List.cons_append])
          (by rw [hbetween, List.filter_cons_of_neg (by simp [hnot])])
      rw [List.filter_cons_of_neg (by simp [hnot]), List.filter_cons_of_pos (by simp [hnot]),
        hplaced, hrest]
      exact ⟨rfl, rfl⟩
    | some inherited =>
      have hyes : ready t = true := by simpa [hkey] using hfirst
      obtain ⟨p, hplace, hpass⟩ := (pass_cons_of_some hkey).1 h
      have hnow : (placed.order ++ [p]).map (·.table) = placed.order.map (·.table) ++ [t] := by
        rw [List.map_append, List.map_singleton, table_of_place hplace]
      obtain ⟨hplaced, hrest⟩ := ih hpass fun before u after between hsplit hbetween =>
        hready (t :: before) u after between (by rw [hsplit, List.cons_append])
          (by rw [hbetween, hnow, List.filter_cons_of_pos hyes, List.append_assoc,
            List.singleton_append])
      rw [List.filter_cons_of_pos hyes, List.filter_cons_of_neg (by simp [hyes]), hplaced,
        hnow, hrest, List.append_assoc, List.singleton_append]
      exact ⟨rfl, rfl⟩

/-- A child's parent stands exactly if it is placed. -/
theorem isSome_iff_mem (hd : (tables.map Table.name).Nodup)
    (hsub : ∀ u ∈ placed.order.map (·.table), u ∈ tables) (hp : IsParent tables p t) :
    (inheritedKey? placed t).isSome ↔ p ∈ placed.order.map (·.table) := by
  rw [inheritedKey?_isSome, hp.2.2, stands_some]
  constructor
  · rintro ⟨q, hq, hname⟩
    have hq := List.mem_map_of_mem (f := (·.table)) hq
    rwa [← eq_of_name_eq hd (hsub _ hq) hp.1 hname]
  · intro hmem
    obtain ⟨q, hq, rfl⟩ := List.mem_map.1 hmem
    exact ⟨q, hq, rfl⟩

/-- A child has number `k` if its parent was placed in an earlier pass, or is placed in pass `k` in
front of it. -/
theorem PassNumbers.eq_iff (hs : Sound tables) (hn : PassNumbers tables number)
    (hp : IsParent tables p t) (hle : k ≤ number t) : number t = k ↔
      number p < k ∨ Precedes tables p t ∧ number p = k := by
  have hnodup : tables.Nodup := hs.nodup
  have hne : p ≠ t := hs.ne_of_ancestor (.single hp)
  rcases precedes_or_precedes hp.1 hp.2.1 hne with hbehind | hahead
  · have hnumber : number t = number p := hn.behind p t hp hbehind
    simp only [hbehind, true_and]
    omega
  · have hnumber : number t = number p + 1 := hn.before p t hp hahead
    simp only [hahead.asymm hnodup, false_and, or_false]
    omega

/-- **Pass `k` is ready for a table that it meets exactly if that has the number `k`.** The tables
with lower numbers are placed, and so are those of number `k` that it has met. -/
theorem stands_iff_number (hs : Sound tables) (hn : PassNumbers tables number)
    (hplaced : ∀ u, u ∈ placed.order.map (·.table) ↔ u ∈ tables ∧ number u < k)
    (hsplit : tables.filter (k ≤ number ·) = before ++ t :: after)
    (hbetween : between.order.map (·.table) =
      placed.order.map (·.table) ++ before.filter (number · = k)) :
    (inheritedKey? between t).isSome ↔ number t = k := by
  have hd := nodup_names hs.distinct
  have hwaits : ∀ {u}, u ∈ before ++ t :: after → u ∈ tables ∧ k ≤ number u := by
    intro u hu
    rw [← hsplit] at hu
    simpa using hu
  obtain ⟨ht, hle⟩ := hwaits (List.mem_append_right _ List.mem_cons_self)
  have hmet : ∀ {u}, u ∈ between.order.map (·.table) ↔
      (u ∈ tables ∧ number u < k) ∨ (u ∈ before ∧ number u = k) := by
    intro u
    rw [hbetween, List.mem_append, hplaced, List.mem_filter, decide_eq_true_eq]
  have hknown : ∀ u ∈ between.order.map (·.table), u ∈ tables := by
    intro u hu
    rcases hmet.1 hu with ⟨hmem, -⟩ | ⟨hmem, -⟩
    · exact hmem
    · exact (hwaits (List.mem_append_left _ hmem)).1
  cases hparent : t.parent with
  | none =>
    have hzero : number t = 0 := hn.root t ht hparent
    have hstands : (inheritedKey? between t).isSome := inheritedKey?_isSome.2 fun name hname => by
      nomatch hparent.symm.trans hname
    simp only [hstands, true_iff]
    omega
  | some parent =>
    obtain ⟨p, hp, rfl⟩ := hs.parents t ht parent hparent
    have hpt : IsParent tables p t := ⟨hp, ht, hparent⟩
    have hne : p ≠ t := hs.ne_of_ancestor (.single hpt)
    -- of the waiting tables, those met before `t` are those that precede it in the input
    have hbefore : number p = k → (p ∈ before ↔ Precedes tables p t) := fun hnumber =>
      mem_left_of_filter hs.nodup hsplit (decide_eq_true (le_of_eq hnumber.symm)) hne
    rw [isSome_iff_mem hd hknown hpt, hmet, hn.eq_iff hs hpt hle, and_iff_right hp]
    exact or_congr_right (and_congr_left hbefore)

/-- **What pass `k` does.** Of the tables from number `k` on, it places those of number `k`. -/
theorem pass_of_number (hs : Sound tables) (hn : PassNumbers tables number)
    (hplaced : ∀ u, u ∈ placed.order.map (·.table) ↔ u ∈ tables ∧ number u < k)
    (h : pass placed (tables.filter (k ≤ number ·)) = .ok (placed', rest)) :
    placed'.order.map (·.table) =
      placed.order.map (·.table) ++ tables.filter (number · = k) ∧
      rest = tables.filter (k + 1 ≤ number ·) := by
  have hready : ∀ {before t after between}, tables.filter (k ≤ number ·) = before ++ t :: after →
      between.order.map (·.table) =
        placed.order.map (·.table) ++ before.filter (fun u => decide (number u = k)) →
      ((inheritedKey? between t).isSome ↔ decide (number t = k) = true) := by
    intro before t after between hsplit hbetween
    rw [stands_iff_number hs hn hplaced hsplit hbetween, decide_eq_true_eq]
  obtain ⟨hplaced', hrest⟩ := pass_of_ready h fun before t after between => hready
  have hnow : (tables.filter (k ≤ number ·)).filter (fun u => decide (number u = k)) =
      tables.filter (number · = k) := by
    rw [List.filter_filter]
    refine List.filter_congr fun u _ => ?_
    rw [Bool.eq_iff_iff, Bool.and_eq_true, decide_eq_true_eq, decide_eq_true_eq]
    omega
  have hlater : (tables.filter (k ≤ number ·)).filter (fun u => !decide (number u = k)) =
      tables.filter (k + 1 ≤ number ·) := by
    rw [List.filter_filter]
    refine List.filter_congr fun u _ => ?_
    rw [Bool.eq_iff_iff, Bool.and_eq_true, Bool.not_eq_true', decide_eq_false_iff_not,
      decide_eq_true_eq, decide_eq_true_eq]
    omega
  rw [hnow] at hplaced'
  exact ⟨hplaced', hrest.trans hlater⟩

/-- **What the passes do from pass `k` on.** They sort. -/
theorem passes_sort (hs : Sound tables) (hn : PassNumbers tables number)
    (h : passes placed waiting = .ok layout) (hwaiting : waiting = tables.filter (k ≤ number ·))
    (hplaced : ∀ u, u ∈ placed.order.map (·.table) ↔ u ∈ tables ∧ number u < k)
    (hsorted : (placed.order.map (·.table)).Pairwise fun s t =>
      number s < number t ∨ number s = number t ∧ tables.idxOf s ≤ tables.idxOf t) :
    (layout.order.map (·.table)).Pairwise fun s t =>
      number s < number t ∨ number s = number t ∧ tables.idxOf s ≤ tables.idxOf t := by
  have hnodup : tables.Nodup := hs.nodup
  fun_induction passes placed waiting generalizing k with
  | case1 => rwa [← Except.ok.inj h]
  | case2 => cases h
  | case3 placed waiting _ placed' rest hpass _ ih =>
    subst hwaiting
    obtain ⟨hplaced', hrest⟩ := pass_of_number hs hn hplaced hpass
    refine ih (k := k + 1) h hrest ?_ ?_
    · intro u
      rw [hplaced', List.mem_append, hplaced, List.mem_filter, decide_eq_true_eq, ← and_or_left]
      refine and_congr_right fun _ => ?_
      omega
    · rw [hplaced', List.pairwise_append]
      refine ⟨hsorted, ?_, fun s hmem t hnow => ?_⟩
      -- within a pass the input order stays, and between passes the number grows
      · refine ((pairwise_idxOf hnodup).filter _).imp_of_mem fun {s t} hmem hnow hlt => ?_
        have hs : number s = k := by simpa using (List.mem_filter.1 hmem).2
        have ht : number t = k := by simpa using (List.mem_filter.1 hnow).2
        omega
      · have hs : number s < k := ((hplaced s).1 hmem).2
        have ht : number t = k := by simpa using (List.mem_filter.1 hnow).2
        omega
  | case4 => cases h

theorem passOrder_iff : passOrder tables s t = true ↔ passNumber tables s < passNumber tables t ∨
    passNumber tables s = passNumber tables t ∧ tables.idxOf s ≤ tables.idxOf t := by
  simp [passOrder]

theorem passOrder_trans (a b c : Table) (hab : passOrder tables a b = true)
    (hbc : passOrder tables b c = true) :
    passOrder tables a c = true := by
  rw [passOrder_iff] at *
  omega

theorem passOrder_total (a b : Table) : (passOrder tables a b || passOrder tables b a) = true := by
  rw [Bool.or_eq_true, passOrder_iff, passOrder_iff]
  omega

/-- Tables that neither number nor position tells apart are one table. -/
theorem passOrder_antisymm (hs : s ∈ tables) (hst : passOrder tables s t = true)
    (hts : passOrder tables t s = true) :
    s = t := by
  rw [passOrder_iff] at hst hts
  exact (List.idxOf_inj hs).1 (by omega)

theorem passOrder_of_isParent (hs : Sound tables) (hp : IsParent tables p t) :
    passOrder tables p t = true := by
  have hn := passNumbers_of_sound hs
  have hnodup : tables.Nodup := hs.nodup
  have hne : p ≠ t := hs.ne_of_ancestor (.single hp)
  rw [passOrder_iff]
  rcases precedes_or_precedes hp.1 hp.2.1 hne with hbehind | hahead
  · have hnumber := hn.behind p t hp hbehind
    have hposition := hbehind.rel (pairwise_idxOf hnodup)
    omega
  · have hnumber := hn.before p t hp hahead
    omega

theorem passOrder_of_ancestor (hs : Sound tables) (ha : Ancestor tables s t) :
    passOrder tables s t = true := by
  induction ha with
  | single hp => exact passOrder_of_isParent hs hp
  | tail _ hp ih => exact passOrder_trans _ _ _ ih (passOrder_of_isParent hs hp)

/-- **The finished order is the input sorted by pass and position.** A root has pass 0. A child has
the pass of its parent if it is declared behind that, and the next one if it is declared before it.
So every table stands once, and behind its ancestors. -/
theorem order_eq_sorted (h : Layout.ofTables tables = .ok layout) :
    layout.order.map (·.table) = tables.mergeSort (passOrder tables) ∧
    (∀ t ∈ tables, t.parent = none → passNumber tables t = 0) ∧
    (∀ p t, IsParent tables p t →
      (Precedes tables p t → passNumber tables t = passNumber tables p) ∧
      (Precedes tables t p → passNumber tables t = passNumber tables p + 1)) ∧
    (layout.order.map (·.table)).Perm tables ∧ (layout.order.map (·.table)).Nodup ∧
    ∀ a t, Ancestor tables a t → Precedes (layout.order.map (·.table)) a t := by
  have hs := sound_of_ofTables h
  have hn := passNumbers_of_sound hs
  have hnodup : tables.Nodup := hs.nodup
  have hperm := (built_of_ofTables h).2
  have hsorted : (layout.order.map (·.table)).Pairwise fun s t => passOrder tables s t = true := by
    have hnone : ∀ u, u ∈ ({} : Layout).order.map (·.table) ↔
        u ∈ tables ∧ passNumber tables u < 0 := by simp
    have hall : tables = tables.filter (0 ≤ passNumber tables ·) := by simp
    exact (passes_sort hs hn (ofTables_eq_ok.1 h).2.2.2 hall hnone .nil).imp passOrder_iff.2
  refine ⟨?_, hn.root, fun p t hp => ⟨hn.behind p t hp, hn.before p t hp⟩, hperm,
    hperm.nodup_iff.2 hnodup, ?_⟩
  · refine List.Perm.eq_of_pairwise
      (fun s t hs _ => passOrder_antisymm (hperm.mem_iff.1 hs)) hsorted
      (List.pairwise_mergeSort passOrder_trans passOrder_total tables) ?_
    exact hperm.trans (List.mergeSort_perm _ _).symm
  · intro a t ha
    have hne : a ≠ t := hs.ne_of_ancestor ha
    refine (precedes_or_precedes (hperm.mem_iff.2 ha.mem_left)
      (hperm.mem_iff.2 ha.mem_right) hne).resolve_right
      fun hback => hne ?_
    exact passOrder_antisymm ha.mem_left (passOrder_of_ancestor hs ha) (hback.rel hsorted)

/-- It is stored in a part of the house. -/
def shelf : Table where
  name := "Shelf"
  columns := [{ name := "HouseId", type := .int64 }, { name := "CellarId", type := .int64 },
    { name := "ShelfId", type := .int64 }]
  primaryKey := ["ShelfId"]
  parent := some "Cellar"

/-- Three passes: the links of the shelf and of the cellar point forward, and that of the attic does
not. -/
theorem order_eq_sorted_shelf : ∃ layout,
    Layout.ofTables [shelf, cellar, house, attic] = .ok layout ∧
    layout.order.map (·.table) = [shelf, cellar, house, attic].mergeSort
      (passOrder [shelf, cellar, house, attic]) ∧
    layout.order.map (·.table) = [house, attic, cellar, shelf] ∧
    [shelf, cellar, house, attic].map (passNumber [shelf, cellar, house, attic]) = [2, 1, 0, 0] ∧
    Precedes (layout.order.map (·.table)) house shelf := by
  obtain ⟨layout, h, horder⟩ :=
    exists_ok_of_any (x := Layout.ofTables [shelf, cellar, house, attic])
      (p := fun layout => layout.order.map (·.table) = [house, attic, cellar, shelf])
      (by decide +kernel)
  obtain ⟨hsorted, -, -, -, -, hancestors⟩ := order_eq_sorted h
  have hcellar : IsParent [shelf, cellar, house, attic] cellar shelf := ⟨by decide, by decide, rfl⟩
  have hhouse : IsParent [shelf, cellar, house, attic] house cellar := ⟨by decide, by decide, rfl⟩
  have hshelf : Ancestor [shelf, cellar, house, attic] house shelf := .tail (.single hhouse) hcellar
  exact ⟨layout, h, hsorted, of_decide_eq_true horder, by decide +kernel,
    hancestors house shelf hshelf⟩

end Interleave.Hierarchy
