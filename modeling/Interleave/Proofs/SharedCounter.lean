import Interleave.Proofs.Counter
import Interleave.Settings.SharedCounter
import Mathlib.Data.List.Forall2

/-!
# Pointing sequences at the shared counter

The settings find shared sequences by their exact name, and counters are planned by names that
ignore case.

* `SharedCounter.Adjusts`: what the settings make of one sequence, and what they leave alone.
* `SharedCounter.apply_adjusts`: **they do this to each sequence in turn and to nothing else**, once
  and for all.
* `SharedCounter.KeepsTogether`: the settings do not tell two requirements under one name apart.
* `SharedCounter.collapse_kept_iff`: **two requirements that share a counter go on sharing it
  exactly then.**
* `SharedCounter.set_at_odds_by_first_value`: with another spelling, a schema that was accepted is
  refused.
-/

namespace Interleave

variable {d : SharedCounter} {s t : Sequence}

namespace Sequence

/-- A sequential sequence without a table of its own. Its counter has its name. -/
structure Plain (s : Sequence) : Prop where
  strategy : s.strategy = .sequential
  table : s.table = none

/-- A plain sequence under the shared name, in its exact spelling. -/
def Shared (s : Sequence) : Prop :=
  s.Plain ∧ s.name = sharedSequenceName

theorem isShared_iff : s.isShared = true ↔ s.Shared := by
  rw [isShared, Bool.and_eq_true, Bool.and_eq_true, beq_iff_eq, beq_iff_eq,
    Option.isNone_iff_eq_none]
  constructor
  · rintro ⟨⟨hstrategy, hname⟩, htable⟩
    exact ⟨⟨hstrategy, htable⟩, hname⟩
  · rintro ⟨⟨hstrategy, htable⟩, hname⟩
    exact ⟨⟨hstrategy, hname⟩, htable⟩

theorem Plain.backingTable (h : s.Plain) : s.backingTable = s.name := by
  rw [Sequence.backingTable, h.table, Option.getD_none]

/-- The two come to one counter: they name it alike, ignoring case, and count alike. -/
structure Collapses (s t : Sequence) : Prop where
  table : Text.lowerCase s.backingTable = Text.lowerCase t.backingTable
  strategy : s.strategy = t.strategy
  initialValue : s.initialValue = t.initialValue

/-- **What two sequences come to when they are planned by themselves.** They are planned as one
counter, they are in conflict, or they are planned as two. -/
theorem planned_pair (s t : Sequence) :
    (Counter.ofSequences {} [s, t] = .ok [Counter.ofSequence s] ↔ s.Collapses t) ∧
    (Counter.ofSequences {} [s, t] = .error (.conflictingSequence t.backingTable) ↔
      ¬ s.Compatible t) := by
  have hfirst : Counter.add {} [] s = .ok (Counter.ofFirsts [s]) := rfl
  have hplanned : Counter.ofSequences {} [s, t] = Counter.add {} (Counter.ofFirsts [s]) t := by
    simp only [Counter.ofSequences, List.foldlM_cons, List.foldlM_nil, bind_pure, hfirst]
    rfl
  have hfirsts : firsts [s] = [s] := rfl
  rw [hplanned, Counter.add_ofFirsts rfl, Counter.ofFirsts, hfirsts, List.map_singleton,
    List.find?_singleton]
  by_cases htable : Text.lowerCase s.backingTable = Text.lowerCase t.backingTable
  · simp only [if_pos (shares_iff.2 htable), Counter.agrees_ofSequence_iff]
    by_cases hcount : s.strategy = t.strategy ∧ s.initialValue = t.initialValue
    · have hcollapses : s.Collapses t := ⟨htable, hcount.1, hcount.2⟩
      have hcompatible : s.Compatible t := fun _ => hcount
      rw [if_pos hcount]
      exact ⟨iff_of_true rfl hcollapses, iff_of_false (by simp) (not_not_intro hcompatible)⟩
    · have hcollapses : ¬ s.Collapses t := fun h => hcount ⟨h.strategy, h.initialValue⟩
      have hcompatible : ¬ s.Compatible t := fun h => hcount (h htable)
      rw [if_neg hcount]
      exact ⟨iff_of_false (by simp) hcollapses, iff_of_true rfl hcompatible⟩
  · have hcollapses : ¬ s.Collapses t := fun h => htable h.table
    have hcompatible : s.Compatible t := fun hsame => absurd hsame htable
    simp only [if_neg (mt shares_iff.1 htable)]
    exact ⟨iff_of_false (by simp) hcollapses,
      iff_of_false (by simp) (not_not_intro hcompatible)⟩

/-- Planned among others, two sequences are backed by one counter if they name one, ignoring case.
They then have one first value. -/
theorem backed_by_one_iff {layout : Layout} {sequences : List Sequence} {counters : List Counter}
    (h : Counter.ofSequences layout sequences = .ok counters) (hs : s ∈ sequences)
    (ht : t ∈ sequences) :
    (∃ c ∈ counters, Text.lowerCase c.table = Text.lowerCase s.backingTable ∧
      Text.lowerCase c.table = Text.lowerCase t.backingTable) ↔
    Text.lowerCase s.backingTable = Text.lowerCase t.backingTable ∧
      s.initialValue = t.initialValue := by
  constructor
  · rintro ⟨c, -, hcs, hct⟩
    have hname := hcs.symm.trans hct
    obtain ⟨hplannable, -⟩ := Counter.ofSequences_eq_ok_iff.1 h
    exact ⟨hname, (hplannable.compatible s hs t ht hname).2⟩
  · rintro ⟨hname, -⟩
    have hbacked := ((Counter.planned_of_ofSequences h).backing _).2 (List.mem_map_of_mem hs)
    obtain ⟨c, hc, hcs⟩ := List.mem_map.1 hbacked
    exact ⟨c, hc, hcs, hcs.trans hname⟩

end Sequence

namespace SharedCounter

/-- What the settings make of one sequence. -/
structure Adjusts (d : SharedCounter) (s s' : Sequence) : Prop where
  name : s'.name = s.name
  strategy : s'.strategy = s.strategy
  untouched : ¬ s.Shared → s' = s
  pointed : s.Shared → s'.backingTable = d.sharedTable
  seeded : s.Shared →
    s'.initialValue = if s.initialValue = 1 then d.initialValue else s.initialValue

theorem adjust_of_not_shared (h : ¬ s.Shared) : d.adjust s = s :=
  if_neg (mt Sequence.isShared_iff.1 h)

theorem adjust_of_shared (h : s.Shared) : d.adjust s =
    { s with
      table := if d.sharedTable = sharedSequenceName then none else some d.sharedTable
      initialValue := if s.initialValue = 1 then d.initialValue else s.initialValue } := by
  rw [adjust, if_pos (Sequence.isShared_iff.2 h), h.1.table]

theorem adjusts_adjust (d : SharedCounter) (s : Sequence) : d.Adjusts s (d.adjust s) := by
  by_cases h : s.Shared
  · rw [adjust_of_shared h]
    refine ⟨rfl, rfl, fun hnot => absurd h hnot, fun _ => ?_, fun _ => rfl⟩
    rw [Sequence.backingTable]
    split
    · next hsame => exact h.2.trans hsame.symm
    · rfl
  · rw [adjust_of_not_shared h]
    exact ⟨rfl, rfl, fun _ => rfl, fun hshared => absurd hshared h, fun hshared => absurd hshared h⟩

/-- A shared sequence stays as it is where the settings name the default table and its value is not
to be replaced. -/
theorem adjust_eq_self (h : s.Shared) (htable : d.sharedTable = sharedSequenceName)
    (hvalue : s.initialValue = 1 → d.initialValue = 1) : d.adjust s = s := by
  have hkept : (if s.initialValue = 1 then d.initialValue else s.initialValue) =
      s.initialValue := by
    split
    · next hone => exact (hvalue hone).trans hone.symm
    · rfl
  rw [adjust_of_shared h, if_pos htable, hkept, ← h.1.table]

/-- Adjusted once, a sequence stays as it is. -/
theorem adjust_adjust (d : SharedCounter) (s : Sequence) : d.adjust (d.adjust s) = d.adjust s := by
  by_cases h : s.Shared
  · by_cases htable : d.sharedTable = sharedSequenceName
    -- it is still shared, with the configured value or one of its own
    · have hstill : (d.adjust s).Shared := by
        rw [adjust_of_shared h, if_pos htable]
        exact ⟨⟨h.1.strategy, rfl⟩, h.2⟩
      refine adjust_eq_self hstill htable fun hone => ?_
      rw [(d.adjusts_adjust s).seeded h] at hone
      split at hone
      · exact hone
      · next hown => exact absurd hone hown
    -- it has a table of its own now
    · refine adjust_of_not_shared fun hstill => ?_
      rw [adjust_of_shared h, if_neg htable] at hstill
      exact absurd hstill.1.table (Option.some_ne_none _)
  · rw [adjust_of_not_shared h, adjust_of_not_shared h]

/-- **What the settings do to a schema.** -/
theorem apply_adjusts (d : SharedCounter) (schema : Schema) :
    d.apply (d.apply schema) = d.apply schema ∧
    (d.apply schema).tables = schema.tables ∧ (d.apply schema).constraints = schema.constraints ∧
    List.Forall₂ d.Adjusts schema.sequences (d.apply schema).sequences := by
  refine ⟨?_, rfl, rfl, ?_⟩
  · unfold apply
    simp only [List.map_map]
    rw [show d.adjust ∘ d.adjust = d.adjust from funext d.adjust_adjust]
  · exact List.forall₂_map_right_iff.2 (List.forall₂_same.2 fun s _ => d.adjusts_adjust s)

/-! ## Requirements under one name -/

theorem backingTable_adjust (h : s.Plain) :
    (d.adjust s).backingTable = if s.name = sharedSequenceName then d.sharedTable else s.name := by
  split
  · next hname => exact (d.adjusts_adjust s).pointed ⟨h, hname⟩
  · next hname => rw [adjust_of_not_shared fun hshared => hname hshared.2, h.backingTable]

theorem initialValue_adjust (h : s.Plain) : (d.adjust s).initialValue =
    if s.name = sharedSequenceName then
      if s.initialValue = 1 then d.initialValue else s.initialValue
    else s.initialValue := by
  split
  · next hname => exact (d.adjusts_adjust s).seeded ⟨h, hname⟩
  · next hname => rw [adjust_of_not_shared fun hshared => hname hshared.2]

/-- Two requirements under one name, ignoring case, still name one counter if both or neither have
the shared name exactly, or if the counter keeps its name, ignoring case. -/
theorem sameTable_adjust_iff (hs : s.Plain) (ht : t.Plain)
    (hname : Text.lowerCase s.name = Text.lowerCase t.name) :
    Text.lowerCase (d.adjust s).backingTable = Text.lowerCase (d.adjust t).backingTable ↔
      (s.name = sharedSequenceName ↔ t.name = sharedSequenceName) ∨
        Text.lowerCase d.sharedTable = Text.lowerCase sharedSequenceName := by
  rw [backingTable_adjust hs, backingTable_adjust ht]
  by_cases hshared : s.name = sharedSequenceName <;> by_cases hshared' : t.name = sharedSequenceName
  · simp only [hshared, hshared', if_true, iff_self, true_or]
  · rw [if_pos hshared, if_neg hshared', ← hname, hshared]
    simp [hshared']
  · rw [if_neg hshared, if_pos hshared', hname, hshared', eq_comm]
    simp [hshared]
  · simp only [hshared, hshared', if_false, hname, iff_self, true_or]

/-- Two requirements with one first value still have one if both or neither have the shared name
exactly, or if the value stays. -/
theorem sameValue_adjust_iff (hs : s.Plain) (ht : t.Plain)
    (hvalue : s.initialValue = t.initialValue) :
    (d.adjust s).initialValue = (d.adjust t).initialValue ↔
      (s.name = sharedSequenceName ↔ t.name = sharedSequenceName) ∨
        (s.initialValue = 1 → d.initialValue = 1) := by
  have hkept : (if t.initialValue = 1 then d.initialValue else t.initialValue) = t.initialValue ↔
      (t.initialValue = 1 → d.initialValue = 1) := by
    by_cases hone : t.initialValue = 1 <;> simp [hone]
  rw [initialValue_adjust hs, initialValue_adjust ht, hvalue]
  by_cases hshared : s.name = sharedSequenceName <;> by_cases hshared' : t.name = sharedSequenceName
  · simp only [hshared, hshared', if_true, iff_self, true_or]
  · rw [if_pos hshared, if_neg hshared', hkept]
    simp [hshared, hshared']
  · rw [if_neg hshared, if_pos hshared', eq_comm, hkept]
    simp [hshared, hshared']
  · simp only [hshared, hshared', if_false, iff_self, true_or]

/-- The settings do not tell the two requirements apart, which have one name, ignoring case. Both or
neither have the shared name exactly, or the settings leave the name of the counter, ignoring case,
and its first value as they are. -/
def KeepsTogether (d : SharedCounter) (s t : Sequence) : Prop :=
  (s.name = sharedSequenceName ↔ t.name = sharedSequenceName) ∨
    Text.lowerCase d.sharedTable = Text.lowerCase sharedSequenceName ∧
    (s.initialValue = 1 → d.initialValue = 1)

theorem together_adjust_iff (hs : s.Plain) (ht : t.Plain)
    (hname : Text.lowerCase s.name = Text.lowerCase t.name)
    (hvalue : s.initialValue = t.initialValue) :
    (Text.lowerCase (d.adjust s).backingTable = Text.lowerCase (d.adjust t).backingTable ∧
      (d.adjust s).initialValue = (d.adjust t).initialValue) ↔ d.KeepsTogether s t := by
  rw [sameTable_adjust_iff hs ht hname, sameValue_adjust_iff hs ht hvalue, KeepsTogether,
    or_and_left]

/-- A sequence is adjusted where it stands. -/
theorem getElem?_apply {schema : Schema} {i : Nat} (h : schema.sequences[i]? = some s) :
    (d.apply schema).sequences[i]? = some (d.adjust s) :=
  (List.getElem?_map ..).trans (congrArg (Option.map d.adjust) h)

/-- **When a counter goes on being shared.** Take two requirements of a schema without tables of
their own, which are planned as one counter. After the settings have been applied, they name one
counter, ignoring case, with one first value, exactly if the settings keep them together. Then they
are planned as one again, and have one counter in whatever plan there is for the schema. Otherwise
they are planned as two counters, or they are in conflict if the settings keep the counter's name.
-/
theorem collapse_kept_iff (d : SharedCounter) (schema : Schema) {i j : Nat}
    (hs : schema.sequences[i]? = some s) (ht : schema.sequences[j]? = some t) (hsPlain : s.Plain)
    (htPlain : t.Plain) (hbefore : Counter.ofSequences {} [s, t] = .ok [Counter.ofSequence s]) :
    ∃ s' t', (d.apply schema).sequences[i]? = some s' ∧ (d.apply schema).sequences[j]? = some t' ∧
      ((Text.lowerCase s'.backingTable = Text.lowerCase t'.backingTable ∧
        s'.initialValue = t'.initialValue) ↔
        d.KeepsTogether s t) ∧
      (Counter.ofSequences {} [s', t'] = .ok [Counter.ofSequence s'] ↔ d.KeepsTogether s t) ∧
      (Counter.ofSequences {} [s', t'] = .error (.conflictingSequence t'.backingTable) ↔
        ¬ d.KeepsTogether s t ∧ Text.lowerCase d.sharedTable = Text.lowerCase sharedSequenceName) ∧
      ∀ layout counters, Counter.ofSequences layout (d.apply schema).sequences = .ok counters →
        ((∃ c ∈ counters, Text.lowerCase c.table = Text.lowerCase s'.backingTable ∧
          Text.lowerCase c.table = Text.lowerCase t'.backingTable) ↔ d.KeepsTogether s t) := by
  obtain ⟨htable, -, hvalue⟩ := (Sequence.planned_pair s t).1.1 hbefore
  rw [hsPlain.backingTable, htPlain.backingTable] at htable
  have hstrategy : (d.adjust s).strategy = (d.adjust t).strategy := by
    rw [(d.adjusts_adjust s).strategy, (d.adjusts_adjust t).strategy, hsPlain.strategy,
      htPlain.strategy]
  have htables := sameTable_adjust_iff (d := d) hsPlain htPlain htable
  have hvalues := sameValue_adjust_iff (d := d) hsPlain htPlain hvalue
  have htogether := together_adjust_iff (d := d) hsPlain htPlain htable hvalue
  have hplanned := Sequence.planned_pair (d.adjust s) (d.adjust t)
  have hs' := d.getElem?_apply hs
  have ht' := d.getElem?_apply ht
  refine ⟨d.adjust s, d.adjust t, hs', ht', htogether, hplanned.1.trans ?_, hplanned.2.trans ?_, ?_⟩
  · rw [← htogether]
    exact ⟨fun h => ⟨h.table, h.initialValue⟩, fun h => ⟨h.1, hstrategy, h.2⟩⟩
  · rw [Sequence.Compatible, and_iff_right hstrategy, Classical.not_imp, ← htogether]
    constructor
    · rintro ⟨htable', hvalue'⟩
      rcases htables.1 htable' with hsame | hkept
      · exact absurd (hvalues.2 (.inl hsame)) hvalue'
      · exact ⟨fun h => hvalue' h.2, hkept⟩
    · rintro ⟨hapart, hkept⟩
      have htable' := htables.2 (.inr hkept)
      exact ⟨htable', fun hvalue' => hapart ⟨htable', hvalue'⟩⟩
  · intro layout counters hplan
    rw [Sequence.backed_by_one_iff hplan (List.mem_of_getElem? hs') (List.mem_of_getElem? ht'),
      htogether]

/-- The capitals do not matter to the plan, but the settings see one shared sequence only. -/
def shouted : Schema :=
  { sequences := [.shared, { name := "HIBERNATE_SEQUENCE" }] }

/-- A table that differs from the shared name in case only does not divide the two. -/
theorem collapse_kept_in_other_case : ∃ s' t',
    Counter.ofSequences {} shouted.sequences = .ok [Counter.ofSequence .shared] ∧
    (({ sharedTable := "Hibernate_Sequence" } : SharedCounter).apply shouted).sequences = [s', t'] ∧
    s'.backingTable = "Hibernate_Sequence" ∧ t'.backingTable = "HIBERNATE_SEQUENCE" ∧
    Counter.ofSequences {} [s', t'] = .ok [Counter.ofSequence s'] := by
  have hbefore : Counter.ofSequences {} shouted.sequences =
      .ok [Counter.ofSequence .shared] := by decide +kernel
  have htable : Text.lowerCase "Hibernate_Sequence" =
      Text.lowerCase sharedSequenceName := by decide +kernel
  have hkept : KeepsTogether { sharedTable := "Hibernate_Sequence" } .shared
      { name := "HIBERNATE_SEQUENCE" } :=
    .inr ⟨htable, fun _ => rfl⟩
  obtain ⟨s', t', hs', ht', -, hplanned, -⟩ :=
    collapse_kept_iff { sharedTable := "Hibernate_Sequence" } shouted (i := 0) (j := 1)
      (s := .shared) (t := { name := "HIBERNATE_SEQUENCE" }) rfl rfl ⟨rfl, rfl⟩ ⟨rfl, rfl⟩ hbefore
  obtain rfl := Option.some.inj hs'
  obtain rfl := Option.some.inj ht'
  exact ⟨_, _, hbefore, rfl, by decide, by decide, hplanned.2 hkept⟩

/-- **Sharing can be lost.** One counter is planned without settings. A first value of its own sets
the two requirements at odds, so that the schema is refused, and a table of its own divides them
into two counters. -/
theorem set_at_odds_by_first_value :
    Counter.ofSequences {} shouted.sequences = .ok [⟨"hibernate_sequence", 1, .sequential⟩] ∧
    Counter.ofSequences {} (({ initialValue := 1000 } : SharedCounter).apply shouted).sequences =
      .error (.conflictingSequence "HIBERNATE_SEQUENCE") ∧
    Counter.ofSequences {}
      (({ sharedTable := "id_counter" } : SharedCounter).apply shouted).sequences =
      .ok [⟨"id_counter", 1, .sequential⟩, ⟨"HIBERNATE_SEQUENCE", 1, .sequential⟩] := by
  decide +kernel

end SharedCounter

end Interleave
