import Interleave.Proofs.Hierarchy.Cycle
import Mathlib.Data.List.TakeWhile

/-!
# The cycle that is reported

A walk from a table may follow some links before it runs into a cycle. These tables are not part of
the cycle, and they are not reported.

* `Rooted`: parent links lead from a table to a root. `acc_iff_rooted` says that these are the
  tables whose links come to an end.
* `IsCycle`, `RunsInto`: what is reported, and how the walk from a table comes to it.
* `runsInto_of_walk`: a walk that reports a cycle has run into it.
* `RunsInto.unique`: a table has one parent, so there is one cycle that a walk from it can run into.
* `firstCycle?_eq_some_iff`: **reported is the cycle that the first table without a root runs
  into**, and there is one exactly if some table is its own ancestor.
-/

namespace Interleave.Hierarchy

open Relation

variable {tables ahead before after rest : List Table} {t p : Table}
  {path cleared found found' lead lead' : List String} {name parent : String}

/-- Parent links lead from the table to a root. -/
inductive Rooted (tables : List Table) : Table → Prop
  | root {t : Table} (hroot : t.parent = none) : Rooted tables t
  | child {p t : Table} (hp : IsParent tables p t) (rooted : Rooted tables p) : Rooted tables t

/-- A table of this name is declared with this parent. -/
def NamesParent (tables : List Table) (name parent : String) : Prop :=
  ∃ t ∈ tables, t.name = name ∧ t.parent = some parent

/-- A cycle of parent links, from one of its tables round to that table again. -/
structure IsCycle (tables : List Table) (found : List String) : Prop where
  length : 2 ≤ found.length
  closed : found.head? = found.getLast?
  /-- No table is named twice, but for the one that closes the cycle. -/
  once : found.dropLast.Nodup
  links : found.IsChain (NamesParent tables)

/-- Parent links lead from `t` through the tables `lead`, and then round the cycle. The table that
closes the cycle is the first one that is met again. -/
structure RunsInto (tables : List Table) (t : Table) (lead found : List String) : Prop where
  starts : (lead ++ found).head? = some t.name
  links : (lead ++ found).IsChain (NamesParent tables)
  once : (lead ++ found.dropLast).Nodup

/-- The cycle to report: of the tables from which links lead to no root, the first one runs into it.
-/
structure FirstCycle (tables : List Table) (found : List String) :
    Prop extends IsCycle tables found where
  first : ∃ before t after lead, tables = before ++ t :: after ∧ (∀ s ∈ before, Rooted tables s) ∧
    ¬ Rooted tables t ∧ RunsInto tables t lead found

/-! ## Links that come to an end -/

section Distinct

variable (hd : (tables.map Table.name).Nodup)
include hd

theorem namesParent_iff : NamesParent tables name parent ↔ Link tables parent name := by
  constructor
  · rintro ⟨t, ht, rfl, hparent⟩
    rw [Link, parentOf?_of_mem hd ht, hparent]
  · exact exists_of_link

theorem Rooted.acc (h : Rooted tables t) (ht : t ∈ tables) : Acc (Link tables) t.name := by
  induction h with
  | @root t hroot => exact acc_of_parentOf?_eq_none (by rw [parentOf?_of_mem hd ht, hroot])
  | @child p t hp _ ih => exact acc_of_link (namesParent_iff hd |>.1 ⟨t, ht, rfl, hp.2.2⟩) (ih hp.1)

/-- **Links from a table come to an end exactly if they lead to a root.** -/
theorem acc_iff_rooted
    (hparents : ∀ t ∈ tables, ∀ parent, t.parent = some parent → ∃ p ∈ tables, p.name = parent)
    (ht : t ∈ tables) :
    Acc (Link tables) t.name ↔ Rooted tables t := by
  refine ⟨fun hacc => ?_, fun h => h.acc hd ht⟩
  generalize hname : t.name = name at hacc
  induction hacc generalizing t with
  | intro name _ ih =>
    subst hname
    cases hparent : t.parent with
    | none => exact .root hparent
    | some parent =>
      obtain ⟨p, hp, rfl⟩ := hparents t ht parent hparent
      have hlink : Link tables p.name t.name := (namesParent_iff hd).1 ⟨t, ht, rfl, hparent⟩
      exact .child ⟨hp, ht, hparent⟩ (ih p.name hlink hp rfl)

end Distinct

/-- Links from a cycle come to no end. -/
theorem not_acc_of_link_cycle (h : TransGen (Link tables) name name) :
    ¬ Acc (Link tables) name := by
  intro hacc
  replace hacc := hacc.transGen
  induction hacc with
  | intro name _ ih => exact ih name h h

/-! ## What a walk reports -/

/-- The part of the path from the repeated name on. -/
theorem exists_dropWhile_of_mem (h : name ∈ path) : ∃ between,
    path.dropWhile (· != name) = name :: between := by
  cases hdrop : path.dropWhile (· != name) with
  | nil =>
    have hne : (name != name) = true := List.dropWhile_eq_nil_iff.1 hdrop name h
    simp at hne
  | cons x between =>
    have hx := List.head?_dropWhile_not (· != name) path
    rw [hdrop] at hx
    exact ⟨between, by rw [show x = name by simpa using hx]⟩

/-- **A walk that reports a cycle** has gone through its path, and on to a table where the cycle
begins and ends. -/
theorem exists_lead_of_walk (h : Underway tables ahead path name) (honce : path.Nodup)
    (hwalk : walk cleared ahead path name = .cycle found) : ∃ lead first between,
    found = first :: between ++ [first] ∧ path ++ [name] <+: lead ++ found ∧
      (lead ++ found).IsChain (flip (Link tables)) ∧ (lead ++ first :: between).Nodup := by
  fun_induction walk cleared ahead path name with
  | case1 => cases hwalk
  | case2 ahead path name _ hpath =>
    obtain ⟨between, hcycle⟩ := exists_dropWhile_of_mem hpath
    obtain rfl := Walk.cycle.inj hwalk
    -- the path is what leads up to the repeated name, and then the cycle
    have hsplit : path.takeWhile (· != name) ++ name :: between = path := by
      rw [← hcycle, List.takeWhile_append_dropWhile]
    have hreport : path.takeWhile (· != name) ++ (name :: between ++ [name]) = path ++ [name] := by
      rw [← List.append_assoc, hsplit]
    rw [hcycle]
    refine ⟨path.takeWhile (· != name), name, between, rfl, ?_, ?_, by rwa [hsplit]⟩
    · exact ⟨[], by rw [List.append_nil, hreport]⟩
    · rw [hreport]
      exact h.chain
  | case3 => cases hwalk
  | case4 => cases hwalk
  | case5 ahead path name _ hpath t hfind parent hparent ih =>
    have hlink : Link tables parent name := by
      rw [Link, h.parentOf?_eq hpath, hfind, Option.bind_some, hparent]
    have honce' : (path ++ [name]).Nodup := by
      refine List.nodup_append.2 ⟨honce, List.nodup_singleton name, ?_⟩
      rintro x hx y hy rfl
      exact hpath (List.mem_singleton.1 hy ▸ hx)
    obtain ⟨lead, first, between, hfound, hprefix, hchain, hnodup⟩ := ih (h.step hlink) honce' hwalk
    exact ⟨lead, first, between, hfound, (List.prefix_append _ _).trans hprefix, hchain, hnodup⟩

theorem runsInto_of_walk (hd : (tables.map Table.name).Nodup)
    (hwalk : walk cleared tables [] t.name = .cycle found) :
    IsCycle tables found ∧ ∃ lead, RunsInto tables t lead found := by
  obtain ⟨lead, first, between, rfl, ⟨more, hstart⟩, hchain, hnodup⟩ :=
    exists_lead_of_walk (underway_start tables t.name) List.nodup_nil hwalk
  have hlinks : (lead ++ (first :: between ++ [first])).IsChain (NamesParent tables) :=
    hchain.imp fun name parent => (namesParent_iff hd).2
  have hdrop : (first :: between ++ [first]).dropLast = first :: between := List.dropLast_concat
  refine ⟨⟨by simp, by simp [List.getLast?_cons], ?_, hlinks.right_of_append⟩, lead,
    ⟨?_, hlinks, by rwa [hdrop]⟩⟩
  · rw [hdrop]
    exact hnodup.of_append_right
  · rw [← hstart]
    rfl

/-! ## One walk, one cycle -/

/-- A cycle in pieces: the table that it begins and ends with, and the others. -/
theorem IsCycle.exists_eq (h : IsCycle tables found) : ∃ first between,
    found = first :: between ++ [first] := by
  obtain ⟨hlength, hclosed, -, -⟩ := h
  cases found with
  | nil => simp at hlength
  | cons first rest =>
    rcases List.eq_nil_or_concat rest with rfl | ⟨between, last, rfl⟩
    · simp at hlength
    · obtain rfl : first = last := by simpa [List.getLast?_cons] using hclosed
      exact ⟨first, between, by rw [List.concat_eq_append, List.cons_append]⟩

/-- From a table that runs into a cycle, links come to no end. -/
theorem RunsInto.not_acc (hd : (tables.map Table.name).Nodup) (hc : IsCycle tables found)
    (h : RunsInto tables t lead found) : ¬ Acc (Link tables) t.name := by
  intro hacc
  obtain ⟨first, between, rfl⟩ := hc.exists_eq
  have hcycle : TransGen (Link tables) first first :=
    transGen_of_isChain (hc.links.imp fun name parent => (namesParent_iff hd).1)
  -- an end of the links from `t` would be one for every table on the way
  refine not_acc_of_link_cycle hcycle
    (h.links.induction (Acc (Link tables)) _ ?_ ?_ first (by simp))
  · intro name parent hlink hname
    exact hname.inv ((namesParent_iff hd).1 hlink)
  · intro hne
    have hhead := h.starts
    rw [List.head?_eq_some_head hne] at hhead
    rwa [Option.some.inj hhead]

/-- Where one step is possible at most, a walk is a part of any other from the same place. -/
theorem prefix_or_prefix_of_isChain {r : String → String → Prop}
    (hr : ∀ x y z, r x y → r x z → y = z) {l l' : List String} (hl : l.IsChain r)
    (hl' : l'.IsChain r) (hhead : l.head? = l'.head?) : l <+: l' ∨ l' <+: l := by
  induction l generalizing l' with
  | nil => exact .inl List.nil_prefix
  | cons x l ih =>
    cases l' with
    | nil => exact .inr List.nil_prefix
    | cons x' l' =>
      obtain rfl : x = x' := by simpa using hhead
      rw [List.cons_prefix_cons, List.cons_prefix_cons]
      simp only [true_and]
      cases l with
      | nil => exact .inl List.nil_prefix
      | cons y l =>
        cases l' with
        | nil => exact .inr List.nil_prefix
        | cons y' l' =>
          obtain ⟨hxy, hl⟩ := List.isChain_cons_cons.1 hl
          obtain ⟨hxy', hl'⟩ := List.isChain_cons_cons.1 hl'
          obtain rfl := hr x y y' hxy hxy'
          exact ih hl hl' rfl

/-- Of two walks that end where they first meet a table again, neither goes on behind the other's
end. -/
theorem IsCycle.eq_of_prefix (hc : IsCycle tables found) (hc' : IsCycle tables found')
    (honce : (lead ++ found.dropLast).Nodup) (honce' : (lead' ++ found'.dropLast).Nodup)
    (h : lead ++ found <+: lead' ++ found') : found = found' := by
  obtain ⟨first, between, rfl⟩ := hc.exists_eq
  obtain ⟨first', between', rfl⟩ := hc'.exists_eq
  rw [List.dropLast_concat] at honce honce'
  rw [← List.append_assoc, ← List.append_assoc, List.prefix_concat_iff] at h
  rcases h with h | h
  · obtain ⟨hpath, hfirst⟩ := List.append_inj' h rfl
    obtain rfl : first = first' := by simpa using hfirst
    -- what leads up to the cycle ends where the table that closes it first stands
    have hcycle : ∀ {lead between : List String}, (lead ++ first :: between).Nodup →
        (lead ++ first :: between).dropWhile (· != first) = first :: between := by
      intro lead between hnodup
      have hlead : ∀ x ∈ lead, (x != first) = true := by
        intro x hx
        simpa using (List.nodup_append.1 hnodup).2.2 x hx first List.mem_cons_self
      rw [List.dropWhile_append_of_pos hlead, List.dropWhile_cons_of_neg (by simp)]
    have hsame : first :: between = first :: between' := by
      rw [← hcycle honce, hpath, hcycle honce']
    rw [hsame]
  · -- the longer walk would have met the first table of this cycle twice
    have htwice : (lead ++ first :: between ++ [first]).Nodup := honce'.sublist h.sublist
    exact absurd rfl ((List.nodup_append.1 htwice).2.2 first (by simp) first (by simp))

/-- **A walk from one table can run into one cycle.** -/
theorem RunsInto.unique (hd : (tables.map Table.name).Nodup) (hc : IsCycle tables found)
    (hc' : IsCycle tables found') (h : RunsInto tables t lead found)
    (h' : RunsInto tables t lead' found') : found = found' := by
  have hr : ∀ x y z, NamesParent tables x y → NamesParent tables x z → y = z := by
    intro x y z hy hz
    exact Option.some.inj (((namesParent_iff hd).1 hy).symm.trans ((namesParent_iff hd).1 hz))
  rcases prefix_or_prefix_of_isChain hr h.links h'.links (h.starts.trans h'.starts.symm) with
    hprefix | hprefix
  · exact hc.eq_of_prefix hc' h.once h'.once hprefix
  · exact (hc'.eq_of_prefix hc h'.once h.once hprefix).symm

/-! ## The first cycle -/

/-- The search passes the tables whose links come to an end. Those it has cleared do not matter for
the others. -/
theorem exists_walk_of_firstCycleFrom? (hcleared : ∀ x ∈ cleared, Acc (Link tables) x)
    (h : firstCycleFrom? tables cleared rest = some found) :
    ∃ before t after cleared, rest = before ++ t :: after ∧
    (∀ s ∈ before, Acc (Link tables) s.name) ∧ walk cleared tables [] t.name = .cycle found := by
  induction rest generalizing cleared with
  | nil => nomatch h
  | cons t rest ih =>
    rw [firstCycleFrom?] at h
    cases hwalk : walk cleared tables [] t.name with
    | cycle cycle =>
      obtain rfl : cycle = found := by simpa [hwalk] using h
      exact ⟨[], t, rest, cleared, rfl, by simp, hwalk⟩
    | ends visited =>
      obtain ⟨hacc, hvisited⟩ := acc_of_walk_ends (underway_start tables t.name) hcleared hwalk
      have hcleared' : ∀ x ∈ cleared ++ visited, Acc (Link tables) x := fun x hx =>
        (List.mem_append.1 hx).elim (hcleared x) (hvisited x)
      obtain ⟨before, s, after, cleared', rfl, hbefore, hwalk'⟩ :=
        ih hcleared' (by simpa [hwalk] using h)
      exact ⟨t :: before, s, after, cleared', rfl, List.forall_mem_cons.2 ⟨hacc, hbefore⟩, hwalk'⟩

theorem firstCycle_of_eq_some (hd : (tables.map Table.name).Nodup)
    (hparents : ∀ t ∈ tables, ∀ parent, t.parent = some parent → ∃ p ∈ tables, p.name = parent)
    (h : firstCycle? tables = some found) : FirstCycle tables found := by
  obtain ⟨before, t, after, cleared, hsplit, hbefore, hwalk⟩ :=
    exists_walk_of_firstCycleFrom? (by simp) h
  obtain ⟨hcycle, lead, hruns⟩ := runsInto_of_walk hd hwalk
  have hmem : ∀ {s}, s ∈ before ∨ s = t → s ∈ tables := by
    rintro s (hs | rfl) <;> rw [hsplit]
    · exact List.mem_append_left _ hs
    · exact List.mem_append_right _ List.mem_cons_self
  refine ⟨hcycle, before, t, after, lead, hsplit, fun s hs => ?_, fun hrooted => ?_, hruns⟩
  · exact (acc_iff_rooted hd hparents (hmem (.inl hs))).1 (hbefore s hs)
  · exact hruns.not_acc hd hcycle (hrooted.acc hd (hmem (.inr rfl)))

/-- There is one first table without a root, and so one cycle to report. -/
theorem FirstCycle.unique (hd : (tables.map Table.name).Nodup) (h : FirstCycle tables found)
    (h' : FirstCycle tables found') : found = found' := by
  obtain ⟨before, t, after, lead, hsplit, hbefore, ht, hruns⟩ := h.first
  obtain ⟨before', t', after', lead', hsplit', hbefore', ht', hruns'⟩ := h'.first
  have hsame : t = t' := by
    rcases List.append_eq_append_iff.1 (hsplit.symm.trans hsplit') with
      ⟨more, rfl, hrest⟩ | ⟨more, rfl, hrest⟩
    · cases more with
      | nil => exact (List.cons.inj hrest).1
      | cons s more =>
        obtain ⟨rfl, -⟩ := List.cons.inj hrest
        exact absurd (hbefore' t (by simp)) ht
    · cases more with
      | nil => exact (List.cons.inj hrest).1.symm
      | cons s more =>
        obtain ⟨rfl, -⟩ := List.cons.inj hrest
        exact absurd (hbefore t' (by simp)) ht'
  subst hsame
  exact hruns.unique hd h.toIsCycle h'.toIsCycle hruns'

/-- **Reported is the cycle that the first table without a root runs into.** There is one to report
exactly if some table is its own ancestor. -/
theorem firstCycle?_eq_some_iff (hd : (tables.map Table.name).Nodup)
    (hparents : ∀ t ∈ tables, ∀ parent, t.parent = some parent → ∃ p ∈ tables, p.name = parent) :
    ((∃ found, firstCycle? tables = some found) ↔ ∃ t, Ancestor tables t t) ∧
      ∀ found, firstCycle? tables = some found ↔ FirstCycle tables found := by
  have hnone := firstCycle?_eq_none_iff hd hparents
  have hexists : (∃ found, firstCycle? tables = some found) ↔ ∃ t, Ancestor tables t t := by
    rw [← Option.ne_none_iff_exists', Ne, hnone]
    simp only [not_forall, not_not]
    exact ⟨fun ⟨t, _, ht⟩ => ⟨t, ht⟩, fun ⟨t, ht⟩ => ⟨t, ht.mem_left, ht⟩⟩
  refine ⟨hexists, fun found => ⟨firstCycle_of_eq_some hd hparents, fun h => ?_⟩⟩
  -- the table without a root keeps the search from ending in vain
  obtain ⟨before, t, after, lead, hsplit, -, ht, -⟩ := h.first
  have hmem : t ∈ tables := by
    rw [hsplit]
    exact List.mem_append_right _ List.mem_cons_self
  cases hfound : firstCycle? tables with
  | none =>
    exact absurd ((acc_iff_rooted hd hparents hmem).1 (acc_of_firstCycle?_eq_none hfound t hmem)) ht
  | some found' => rw [(firstCycle_of_eq_some hd hparents hfound).unique hd h]

def hall : Table where
  name := "Hall"

/-- It leads to the stairs, which do not lead back to it. -/
def porch : Table where
  name := "Porch"
  parent := some "Stairs"

def landing : Table where
  name := "Landing"
  parent := some "Stairs"

def stairs : Table where
  name := "Stairs"
  parent := some "Landing"

/-- The porch is met first and the landing is declared before the stairs, but the cycle begins with
the stairs. -/
theorem firstCycle?_behind_porch : ([hall, porch, landing, stairs].map Table.name).Nodup ∧
    (∀ t ∈ [hall, porch, landing, stairs], ∀ parent, t.parent = some parent →
      ∃ p ∈ [hall, porch, landing, stairs], p.name = parent) ∧
    FirstCycle [hall, porch, landing, stairs] ["Stairs", "Landing", "Stairs"] ∧
    ∃ t, Ancestor [hall, porch, landing, stairs] t t := by
  have hd : ([hall, porch, landing, stairs].map Table.name).Nodup := by decide
  have hparents : ∀ t ∈ [hall, porch, landing, stairs], ∀ parent, t.parent = some parent →
      ∃ p ∈ [hall, porch, landing, stairs], p.name = parent := by
    simp [hall, porch, landing, stairs]
  have hfound : firstCycle? [hall, porch, landing, stairs] =
      some ["Stairs", "Landing", "Stairs"] := by decide +kernel
  obtain ⟨hexists, hfirst⟩ := firstCycle?_eq_some_iff hd hparents
  exact ⟨hd, hparents, (hfirst _).1 hfound, hexists.1 ⟨_, hfound⟩⟩

end Interleave.Hierarchy
