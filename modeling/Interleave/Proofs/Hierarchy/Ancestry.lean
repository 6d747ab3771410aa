import Interleave.Schema.Table
import Mathlib.Data.List.Nodup
import Mathlib.Logic.Relation
import Mathlib.Tactic.Common

/-!
# Ancestry of declared tables

* `IsParent`, `Ancestor`: a declared table is the parent of another, or an ancestor at any distance.
* `Link`: the same link between names, as a search by name sees it.
* `ancestor_self_of_link_cycle`, `not_ancestor_self`: no table is its own ancestor as long as the
  links from its name come to an end (`Acc Link`), and a cycle of links is a table that is its own
  ancestor.

Names are assumed to be distinct throughout, so a name stands for one table.
-/

namespace Interleave.Hierarchy

open Relation

/-- Both tables are declared, and `t` names `p` as its parent. -/
def IsParent (tables : List Table) (p t : Table) : Prop :=
  p ∈ tables ∧ t ∈ tables ∧ t.parent = some p.name

/-- `a` is met when parent links are followed from `t`. -/
def Ancestor (tables : List Table) : Table → Table → Prop :=
  TransGen (IsParent tables)

/-- The parent that the table called `name` names. -/
def parentOf? (tables : List Table) (name : String) : Option String :=
  (tables.find? (·.name == name)).bind (·.parent)

/-- The table called `name` names `parent` as its parent. -/
def Link (tables : List Table) (parent name : String) : Prop :=
  parentOf? tables name = some parent

variable {tables : List Table} {a p t : Table} {name parent : String}

theorem Ancestor.mem_left (h : Ancestor tables a t) : a ∈ tables := by
  obtain ⟨b, hab, -⟩ := TransGen.head'_iff.1 h
  exact hab.1

theorem Ancestor.mem_right (h : Ancestor tables a t) : t ∈ tables := by
  obtain ⟨b, -, hbt⟩ := TransGen.tail'_iff.1 h
  exact hbt.2.1

theorem not_ancestor_of_root (hroot : t.parent = none) : ¬ Ancestor tables a t := by
  intro h
  obtain ⟨b, -, hbt⟩ := TransGen.tail'_iff.1 h
  exact Option.some_ne_none _ (hbt.2.2.symm.trans hroot)

theorem exists_of_link (h : Link tables parent name) :
    ∃ t ∈ tables, t.name = name ∧ t.parent = some parent := by
  obtain ⟨t, hfind, hparent⟩ := Option.bind_eq_some_iff.1 h
  exact ⟨t, List.mem_of_find?_eq_some hfind, by simpa using List.find?_some hfind, hparent⟩

/-- Where names are distinct, the search for a name finds its bearer. -/
theorem find?_of_nodup_map {α : Type} {f : α → String} {l : List α} {x : α} (hd : (l.map f).Nodup)
    (hx : x ∈ l) :
    l.find? (f · == f x) = some x := by
  cases hfind : l.find? (f · == f x) with
  | none => simpa using List.find?_eq_none.1 hfind x hx
  | some y =>
    have hname : f y = f x := by simpa using List.find?_some hfind
    rw [List.inj_on_of_nodup_map hd (List.mem_of_find?_eq_some hfind) hx hname]

section Distinct

variable (hd : (tables.map Table.name).Nodup)
include hd

theorem eq_of_name_eq (hp : p ∈ tables) (ht : t ∈ tables) (h : p.name = t.name) : p = t :=
  List.inj_on_of_nodup_map hd hp ht h

theorem find?_of_mem (ht : t ∈ tables) : tables.find? (·.name == t.name) = some t :=
  find?_of_nodup_map hd ht

theorem parentOf?_of_mem (ht : t ∈ tables) : parentOf? tables t.name = t.parent := by
  rw [parentOf?, find?_of_mem hd ht, Option.bind_some]

/-- A table has one parent, and every further ancestor is one of that parent. -/
theorem ancestor_iff_of_isParent (hp : IsParent tables p t) :
    Ancestor tables a t ↔ a = p ∨ Ancestor tables a p := by
  constructor
  · intro h
    obtain ⟨b, hab, hbt⟩ := TransGen.tail'_iff.1 h
    have hname : b.name = p.name := Option.some.inj (hbt.2.2.symm.trans hp.2.2)
    rw [eq_of_name_eq hd hbt.1 hp.1 hname] at hab
    exact (reflTransGen_iff_eq_or_transGen.1 hab).imp Eq.symm id
  · rintro (rfl | h)
    · exact TransGen.single hp
    · exact TransGen.tail h hp

/-- An ancestor is reached by name. -/
theorem link_of_ancestor (h : Ancestor tables a t) : TransGen (Link tables) a.name t.name :=
  TransGen.lift Table.name (fun _ _ hp => (parentOf?_of_mem hd hp.2.1).trans hp.2.2) a t h

/-- Where parent links come to an end, there is no cycle. -/
theorem not_ancestor_self (hends : Acc (Link tables) t.name) : ¬ Ancestor tables t t := by
  intro h
  have hcycle := link_of_ancestor hd h
  have hacc := hends.transGen
  -- a step against the cycle stays on it, so no name on it is the last
  generalize t.name = name at hcycle hacc
  induction hacc with
  | intro name _ ih => exact ih name hcycle hcycle

/-- What is reached by name is an ancestor, if every parent is declared. -/
theorem ancestor_of_link (hparents : ∀ t ∈ tables, ∀ parent, t.parent = some parent →
    ∃ p ∈ tables, p.name = parent) (h : TransGen (Link tables) parent name) :
    ∃ p t, p.name = parent ∧ t.name = name ∧ Ancestor tables p t := by
  have hlink : ∀ {parent name}, Link tables parent name →
      ∃ p t, p.name = parent ∧ t.name = name ∧ IsParent tables p t := by
    intro parent name hlink
    obtain ⟨t, ht, hname, hparent⟩ := exists_of_link hlink
    obtain ⟨p, hp, rfl⟩ := hparents t ht parent hparent
    exact ⟨p, t, rfl, hname, hp, ht, hparent⟩
  induction h with
  | single h =>
    obtain ⟨p, t, hpname, hname, hp⟩ := hlink h
    exact ⟨p, t, hpname, hname, TransGen.single hp⟩
  | tail _ h ih =>
    obtain ⟨p, s, hpname, hsname, hps⟩ := ih
    obtain ⟨s', t, hsname', hname, hst⟩ := hlink h
    -- both links go through the one table of that name
    obtain rfl : s = s' := eq_of_name_eq hd hps.mem_right hst.1 (hsname.trans hsname'.symm)
    exact ⟨p, t, hpname, hname, TransGen.tail hps hst⟩

/-- A cycle of links leads from a table back to it. -/
theorem ancestor_self_of_link_cycle (hparents : ∀ t ∈ tables, ∀ parent, t.parent = some parent →
    ∃ p ∈ tables, p.name = parent) (h : TransGen (Link tables) name name) :
    ∃ t, Ancestor tables t t := by
  obtain ⟨p, t, hpname, hname, hpt⟩ := ancestor_of_link hd hparents h
  obtain rfl : p = t := eq_of_name_eq hd hpt.mem_left hpt.mem_right (hpname.trans hname.symm)
  exact ⟨p, hpt⟩

end Distinct

end Interleave.Hierarchy
