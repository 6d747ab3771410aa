import Interleave.Hierarchy.Cycle
import Interleave.Proofs.Hierarchy.Ancestry
import Mathlib.Data.List.Chain

/-!
# The search for cycles

* `Underway`: what holds between two steps of a walk.
* `acc_of_walk_ends`: a walk that ends has followed links that end.
* `link_cycle_of_walk`: a walk that reports a cycle has met one.
* `firstCycle?_eq_none_iff`: the search finds nothing exactly if no table is its own ancestor.
-/

namespace Interleave.Hierarchy

open Relation

variable {tables ahead : List Table} {cleared path visited found : List String}
  {name parent : String}

theorem acc_of_parentOf?_eq_none (h : parentOf? tables name = none) : Acc (Link tables) name :=
  ⟨name, fun _ hlink => absurd (h.symm.trans hlink) (by simp)⟩

/-- There is one link to follow. -/
theorem acc_of_link (h : Link tables parent name) (hacc : Acc (Link tables) parent) :
    Acc (Link tables) name :=
  ⟨name, fun x hx => by rwa [← Option.some.inj (h.symm.trans hx)]⟩

/-- A chain of links leads back to where it began. -/
theorem transGen_of_isChain {first last : String} {between : List String}
    (h : (first :: between ++ [last]).IsChain (flip (Link tables))) :
    TransGen (Link tables) last first := by
  induction between generalizing first with
  | nil => exact TransGen.single (by simpa [flip] using h)
  | cons next rest ih =>
    obtain ⟨hlink, hrest⟩ := List.isChain_cons_cons.1 h
    exact TransGen.tail (ih hrest) hlink

/-- The tables ahead of a walk are those not on its path, and the path leads to `name`. -/
structure Underway (tables ahead : List Table) (path : List String) (name : String) : Prop where
  ahead_eq : ahead = tables.filter fun t => t.name ∉ path
  chain : (path ++ [name]).IsChain (flip (Link tables))

theorem underway_start (tables : List Table) (name : String) : Underway tables tables [] name :=
  ⟨by simp, List.isChain_singleton _⟩

namespace Underway

/-- Off the path, the tables ahead are as good as all of them. -/
theorem parentOf?_eq (h : Underway tables ahead path name) (hname : name ∉ path) :
    parentOf? tables name = (ahead.find? (·.name == name)).bind (·.parent) := by
  have hfind : ahead.find? (·.name == name) = tables.find? (·.name == name) := by
    rw [h.ahead_eq, List.find?_filter]
    congr 1
    funext t
    by_cases ht : t.name = name <;> simp [ht, hname]
  rw [parentOf?, hfind]

theorem step (h : Underway tables ahead path name) (hlink : Link tables parent name) :
    Underway tables (others name ahead) (path ++ [name]) parent := by
  refine ⟨?_, ?_⟩
  · rw [others, h.ahead_eq, List.filter_filter]
    congr 1
    funext t
    by_cases ht : t.name = name <;> simp [ht]
  · refine List.isChain_append.2 ⟨h.chain, List.isChain_singleton _, ?_⟩
    simpa [flip] using hlink

/-- If links from `name` come to an end, so do those from the path. -/
theorem acc_path (h : Underway tables ahead path name) (hacc : Acc (Link tables) name) :
    ∀ x ∈ path, Acc (Link tables) x :=
  h.chain.backwards_concat_induction (Acc (Link tables)) path (fun _ _ => acc_of_link) hacc

end Underway

/-- **A walk that ends** clears only names from which links come to an end. -/
theorem acc_of_walk_ends (h : Underway tables ahead path name)
    (hcleared : ∀ x ∈ cleared, Acc (Link tables) x)
    (hwalk : walk cleared ahead path name = .ends visited) :
    Acc (Link tables) name ∧ ∀ x ∈ visited, Acc (Link tables) x := by
  -- a name ends a walk if it is not declared and if its table is a root
  have hend : ∀ {ahead path name}, Underway tables ahead path name → parentOf? tables name = none →
      Walk.ends (path ++ [name]) = .ends visited →
      Acc (Link tables) name ∧ ∀ x ∈ visited, Acc (Link tables) x := by
    intro ahead path name h hnone hwalk
    obtain rfl := Walk.ends.inj hwalk
    have hacc := acc_of_parentOf?_eq_none hnone
    exact ⟨hacc, by simpa [or_imp, forall_and, hacc] using h.acc_path hacc⟩
  fun_induction walk cleared ahead path name with
  | case1 ahead path name hmem =>
    obtain rfl := Walk.ends.inj hwalk
    exact ⟨hcleared name hmem, h.acc_path (hcleared name hmem)⟩
  | case2 => nomatch hwalk
  | case3 ahead path name _ hpath hfind =>
    exact hend h (by rw [h.parentOf?_eq hpath, hfind, Option.bind_none]) hwalk
  | case4 ahead path name _ hpath t hfind hroot =>
    exact hend h (by rw [h.parentOf?_eq hpath, hfind, Option.bind_some, hroot]) hwalk
  | case5 ahead path name _ hpath t hfind parent hparent ih =>
    have hlink : Link tables parent name := by
      rw [Link, h.parentOf?_eq hpath, hfind, Option.bind_some, hparent]
    obtain ⟨hacc, hvisited⟩ := ih (h.step hlink) hwalk
    exact ⟨acc_of_link hlink hacc, hvisited⟩

/-- **A walk that runs into a cycle** has met a name that links lead back to. -/
theorem link_cycle_of_walk (h : Underway tables ahead path name)
    (hwalk : walk cleared ahead path name = .cycle found) : ∃ x, TransGen (Link tables) x x := by
  fun_induction walk cleared ahead path name with
  | case1 => nomatch hwalk
  | case2 ahead path name _ hpath =>
    -- the path from the repeated name on is the cycle; what leads up to it is not
    obtain ⟨lead, between, rfl⟩ := List.append_of_mem hpath
    have hchain := h.chain
    rw [List.append_assoc] at hchain
    exact ⟨name, transGen_of_isChain hchain.right_of_append⟩
  | case3 => nomatch hwalk
  | case4 => nomatch hwalk
  | case5 ahead path name _ hpath t hfind parent hparent ih =>
    have hlink : Link tables parent name := by
      rw [Link, h.parentOf?_eq hpath, hfind, Option.bind_some, hparent]
    exact ih (h.step hlink) hwalk

theorem acc_of_firstCycleFrom?_eq_none {rest : List Table}
    (hcleared : ∀ x ∈ cleared, Acc (Link tables) x)
    (h : firstCycleFrom? tables cleared rest = none) : ∀ t ∈ rest, Acc (Link tables) t.name := by
  induction rest generalizing cleared with
  | nil => simp
  | cons t rest ih =>
    rw [firstCycleFrom?] at h
    cases hwalk : walk cleared tables [] t.name with
    | cycle found => simp [hwalk] at h
    | ends visited =>
      obtain ⟨hacc, hvisited⟩ := acc_of_walk_ends (underway_start tables t.name) hcleared hwalk
      have hcleared' : ∀ x ∈ cleared ++ visited, Acc (Link tables) x := fun x hx =>
        (List.mem_append.1 hx).elim (hcleared x) (hvisited x)
      exact List.forall_mem_cons.2 ⟨hacc, ih hcleared' (by simpa [hwalk] using h)⟩

theorem link_cycle_of_firstCycleFrom? {rest : List Table}
    (h : firstCycleFrom? tables cleared rest = some found) : ∃ x, TransGen (Link tables) x x := by
  induction rest generalizing cleared with
  | nil => nomatch h
  | cons t rest ih =>
    rw [firstCycleFrom?] at h
    cases hwalk : walk cleared tables [] t.name with
    | cycle _ => exact link_cycle_of_walk (underway_start tables t.name) hwalk
    | ends visited => exact ih (by simpa [hwalk] using h)

/-- Where the search finds nothing, links come to an end from every table. -/
theorem acc_of_firstCycle?_eq_none (h : firstCycle? tables = none) :
    ∀ t ∈ tables, Acc (Link tables) t.name :=
  acc_of_firstCycleFrom?_eq_none (by simp) h

/-- **The search finds nothing exactly if no table is its own ancestor.** -/
theorem firstCycle?_eq_none_iff (hd : (tables.map Table.name).Nodup)
    (hparents : ∀ t ∈ tables, ∀ parent, t.parent = some parent → ∃ p ∈ tables, p.name = parent) :
    firstCycle? tables = none ↔ ∀ t ∈ tables, ¬ Ancestor tables t t := by
  constructor
  · intro h t ht
    exact not_ancestor_self hd (acc_of_firstCycle?_eq_none h t ht)
  · intro h
    cases hfound : firstCycle? tables with
    | none => rfl
    | some found =>
      obtain ⟨x, hx⟩ := link_cycle_of_firstCycleFrom? hfound
      obtain ⟨t, ht⟩ := ancestor_self_of_link_cycle hd hparents hx
      exact absurd ht (h t ht.mem_left)

end Interleave.Hierarchy
