import Interleave.Proofs.Counter.Agreement
import Mathlib.Data.List.Dedup

/-!
# Planned counters

* `Counter.Planned`: the counters of some sequences, none of them a table of the layout. There is
  one counter for each name, ignoring case.
* `Counter.planned_of_ofSequences`: **planning yields such counters.**
-/

namespace Interleave

namespace Counter

open Sequence

variable {layout : Layout} {counters : List Counter} {sequences : List Sequence}

structure Planned (layout : Layout) (sequences : List Sequence) (counters : List Counter) :
    Prop where
  distinct : (counters.map fun c => Text.lowerCase c.table).Nodup
  apart : ∀ c ∈ counters, layout.declares c.table = false
  backing : ∀ name, name ∈ counters.map (fun c => Text.lowerCase c.table) ↔
    name ∈ sequences.map fun s => Text.lowerCase s.backingTable

/-- The counters of plannable sequences are such counters. -/
theorem planned_ofFirsts (h : Plannable layout sequences) :
    Planned layout sequences (ofFirsts sequences) where
  distinct := nodup_ofFirsts sequences
  apart c hc := by
    obtain ⟨s, hs, rfl⟩ := List.mem_map.1 hc
    refine Bool.eq_false_iff.2 fun hdeclared => ?_
    obtain ⟨p, hp, hname⟩ := Layout.declares_iff.1 hdeclared
    exact h.apart s (mem_of_mem_firsts hs) p hp hname
  backing name := by
    constructor
    · intro hname
      obtain ⟨c, hc, rfl⟩ := List.mem_map.1 hname
      obtain ⟨s, hs, rfl⟩ := List.mem_map.1 hc
      exact List.mem_map_of_mem (mem_of_mem_firsts hs)
    · intro hname
      obtain ⟨s, hs, rfl⟩ := List.mem_map.1 hname
      obtain ⟨first, hfind, hshares⟩ := exists_find?_shares hs
      exact List.mem_map.2 ⟨_, List.mem_map_of_mem (mem_firsts_of_find? hfind),
        shares_iff.1 hshares⟩

/-- **Planning yields one counter for each name that a sequence asks for**, and no table of the
layout. -/
theorem planned_of_ofSequences (h : ofSequences layout sequences = .ok counters) :
    Planned layout sequences counters := by
  obtain ⟨hplannable, rfl⟩ := ofSequences_eq_ok_iff.1 h
  exact planned_ofFirsts hplannable

/-- The names of the counters, up to order. -/
theorem Planned.perm_dedup (hp : Planned layout sequences counters) :
    (counters.map fun c => Text.lowerCase c.table).Perm
      (sequences.map fun s => Text.lowerCase s.backingTable).dedup := by
  refine (List.perm_ext_iff_of_nodup hp.distinct (List.nodup_dedup _)).2 fun name => ?_
  rw [hp.backing, List.mem_dedup]

end Counter

end Interleave
