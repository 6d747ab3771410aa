import Interleave.Counter
import Mathlib.Data.List.Induction
import Mathlib.Data.List.Nodup
import Mathlib.Data.List.Perm.Basic
import Mathlib.Tactic.Common

/-!
# Sequences that agree

Counters are planned one sequence at a time, and a sequence is compared only with the counter that
is already there. What comes of it can be said of the sequences themselves, whatever their order.

* `Counter.Plannable`: no sequence names a table, and those that name one counter count alike.
* `Counter.Breach`: what one sequence does against that, coming after others. `Counter.FirstBreach`:
  the first time.
* `Sequence.firsts`: the sequences that are the first to name their counter.
* `Counter.add_of_plannable`: one more sequence after plannable ones. Of those, only the first of
  each name is kept, which is enough, as the others count alike.
* `Counter.ofSequences_outcome`: **planning succeeds exactly for plannable sequences, with the
  counters of the first ones. Otherwise it fails for the first breach.**
-/

namespace Interleave

variable {layout : Layout} {met after sequences : List Sequence} {first s t : Sequence}
  {e e' : DesignError}

namespace Sequence

/-- The sequences name one counter, ignoring case. -/
def shares (s t : Sequence) : Bool :=
  Text.sameName t.backingTable s.backingTable

theorem shares_iff :
    s.shares t = true ↔ Text.lowerCase t.backingTable = Text.lowerCase s.backingTable := by
  rw [shares, Text.sameName_iff]

/-- Sequences that name one counter count alike. -/
def Compatible (s t : Sequence) : Prop :=
  Text.lowerCase s.backingTable = Text.lowerCase t.backingTable →
    s.strategy = t.strategy ∧ s.initialValue = t.initialValue

/-- The sequences that are the first to name their counter, in the order in which they are declared.
-/
def firsts (sequences : List Sequence) : List Sequence :=
  sequences.eraseDupsBy shares

/-- One more sequence is kept unless its counter is named by one that is kept. -/
theorem firsts_append_singleton (met : List Sequence) (s : Sequence) :
    firsts (met ++ [s]) = if (firsts met).any s.shares then firsts met else firsts met ++ [s] := by
  -- the loop carries what is kept so far, in reverse
  suffices hloop : ∀ kept, List.eraseDupsBy.loop shares (met ++ [s]) kept =
      if (List.eraseDupsBy.loop shares met kept).any s.shares then
        List.eraseDupsBy.loop shares met kept
      else List.eraseDupsBy.loop shares met kept ++ [s] from hloop []
  have hcons : ∀ t rest kept, List.eraseDupsBy.loop shares (t :: rest) kept =
      if kept.any t.shares then List.eraseDupsBy.loop shares rest kept
      else List.eraseDupsBy.loop shares rest (t :: kept) := by
    intro t rest kept
    rw [List.eraseDupsBy.loop]
    cases kept.any t.shares <;> rfl
  have hnil : ∀ kept, List.eraseDupsBy.loop shares [] kept = kept.reverse := fun _ => rfl
  induction met with
  | nil =>
    intro kept
    rw [List.nil_append, hcons, hnil, hnil, List.any_reverse, List.reverse_cons]
  | cons t rest ih =>
    intro kept
    rw [List.cons_append, hcons, hcons]
    split
    · exact ih kept
    · exact ih (t :: kept)

theorem mem_of_mem_firsts (h : s ∈ firsts met) : s ∈ met := by
  induction met using List.reverseRecOn with
  | nil => exact h
  | append_singleton met t ih =>
    rw [firsts_append_singleton] at h
    split at h
    · exact List.mem_append_left _ (ih h)
    · exact List.mem_append.2 ((List.mem_append.1 h).imp_left ih)

/-- No two sequences that are kept name one counter. -/
theorem nodup_firsts (sequences : List Sequence) :
    ((firsts sequences).map fun s => Text.lowerCase s.backingTable).Nodup := by
  induction sequences using List.reverseRecOn with
  | nil => exact List.nodup_nil
  | append_singleton met s ih =>
    rw [firsts_append_singleton]
    split
    · exact ih
    · next hnew =>
      rw [List.map_append, List.nodup_append]
      refine ⟨ih, List.nodup_singleton _, fun name hname other hother heq => hnew ?_⟩
      obtain ⟨b, hb, rfl⟩ := List.mem_map.1 hname
      rw [List.mem_singleton.1 hother] at heq
      exact List.any_eq_true.2 ⟨b, hb, shares_iff.2 heq⟩

/-- What is found first under the name of a sequence is kept. -/
theorem mem_firsts_of_find? (h : sequences.find? s.shares = some first) :
    first ∈ firsts sequences := by
  induction sequences using List.reverseRecOn with
  | nil => nomatch h
  | append_singleton met t ih =>
    rw [firsts_append_singleton]
    rw [List.find?_append] at h
    cases hmet : met.find? s.shares with
    | some found =>
      rw [hmet, Option.some_or] at h
      have hkept := ih (hmet.trans h)
      split
      · exact hkept
      · exact List.mem_append_left _ hkept
    | none =>
      rw [hmet, Option.none_or, List.find?_singleton] at h
      split at h
      · next hshares =>
        obtain rfl := Option.some.inj h
        -- a sequence that is kept and names this counter would have been found before
        have hnew : ¬ (firsts met).any t.shares = true := by
          rw [List.any_eq_true]
          rintro ⟨b, hb, hsame⟩
          have hnone := List.find?_eq_none.1 hmet b (mem_of_mem_firsts hb)
          exact hnone (shares_iff.2 ((shares_iff.1 hsame).trans (shares_iff.1 hshares)))
        rw [if_neg hnew]
        exact List.mem_append_right _ List.mem_cons_self
      · nomatch h

theorem exists_find?_shares (h : s ∈ sequences) :
    ∃ first, sequences.find? s.shares = some first ∧ s.shares first = true := by
  cases hfind : sequences.find? s.shares with
  | none => exact absurd (shares_iff.2 rfl) (List.find?_eq_none.1 hfind s h)
  | some first => exact ⟨first, rfl, List.find?_some hfind⟩

end Sequence

theorem Layout.declares_iff {name : String} :
    layout.declares name = true ↔
      ∃ p ∈ layout.order, Text.lowerCase p.name = Text.lowerCase name := by
  simp only [declares, List.any_eq_true, Text.sameName_iff]

namespace Counter

open Sequence

/-- **What sequences have to keep to.** -/
structure Plannable (layout : Layout) (sequences : List Sequence) : Prop where
  /-- None names a table of the layout, ignoring case. -/
  apart : ∀ s ∈ sequences, ∀ p ∈ layout.order, Text.lowerCase p.name ≠ Text.lowerCase s.backingTable
  compatible : ∀ s ∈ sequences, ∀ t ∈ sequences, s.Compatible t

/-- What a sequence does wrong that comes after the sequences `met`. It is blamed under its own
spelling. -/
inductive Breach (layout : Layout) (met : List Sequence) (s : Sequence) : DesignError → Prop
  | table (h : ∃ p ∈ layout.order, Text.lowerCase p.name = Text.lowerCase s.backingTable) :
    Breach layout met s (.duplicateTable s.backingTable)
  | conflict (hapart : ∀ p ∈ layout.order, Text.lowerCase p.name ≠ Text.lowerCase s.backingTable)
    (h : ∃ b ∈ met, ¬ b.Compatible s) : Breach layout met s (.conflictingSequence s.backingTable)

/-- The first sequence that does something wrong. Those before it do not. -/
def FirstBreach (layout : Layout) (sequences : List Sequence) (e : DesignError) : Prop :=
  ∃ met s after, sequences = met ++ s :: after ∧ Plannable layout met ∧ Breach layout met s e

theorem Plannable.perm (h : Plannable layout sequences) (hperm : sequences.Perm met) :
    Plannable layout met where
  apart s hs := h.apart s (hperm.mem_iff.2 hs)
  compatible s hs t ht := h.compatible s (hperm.mem_iff.2 hs) t (hperm.mem_iff.2 ht)

theorem Breach.unique (h : Breach layout met s e) (h' : Breach layout met s e') : e = e' := by
  cases h with
  | table h =>
    obtain ⟨p, hp, hname⟩ := h
    cases h' with
    | table => rfl
    | conflict hapart => exact absurd hname (hapart p hp)
  | conflict hapart =>
    cases h' with
    | table h' =>
      obtain ⟨p, hp, hname⟩ := h'
      exact absurd hname (hapart p hp)
    | conflict => rfl

theorem Breach.not_plannable (h : Breach layout met s e) :
    ¬ Plannable layout (met ++ s :: after) := by
  intro hplannable
  have hs : s ∈ met ++ s :: after := List.mem_append_right _ List.mem_cons_self
  cases h with
  | table h =>
    obtain ⟨p, hp, hname⟩ := h
    exact hplannable.apart s hs p hp hname
  | conflict _ h =>
    obtain ⟨b, hb, hincompatible⟩ := h
    exact hincompatible (hplannable.compatible b (List.mem_append_left _ hb) s hs)

theorem FirstBreach.not_plannable (h : FirstBreach layout sequences e) :
    ¬ Plannable layout sequences := by
  obtain ⟨met, s, after, rfl, -, hbreach⟩ := h
  exact hbreach.not_plannable

/-- A sequence that breaks nothing can come after plannable ones. -/
theorem Plannable.append_singleton (h : Plannable layout met)
    (hapart : ∀ p ∈ layout.order, Text.lowerCase p.name ≠ Text.lowerCase s.backingTable)
    (hcompatible : ∀ b ∈ met, b.Compatible s) : Plannable layout (met ++ [s]) where
  apart t ht := by
    rcases List.mem_append.1 ht with ht | ht
    · exact h.apart t ht
    · rw [List.mem_singleton.1 ht]
      exact hapart
  compatible t ht u hu := by
    have hsymm : ∀ b ∈ met, s.Compatible b := by
      intro b hb hname
      obtain ⟨hstrategy, hvalue⟩ := hcompatible b hb hname.symm
      exact ⟨hstrategy.symm, hvalue.symm⟩
    rcases List.mem_append.1 ht with ht | ht
    · rcases List.mem_append.1 hu with hu | hu
      · exact h.compatible t ht u hu
      · rw [List.mem_singleton.1 hu]
        exact hcompatible t ht
    · rcases List.mem_append.1 hu with hu | hu
      · rw [List.mem_singleton.1 ht]
        exact hsymm u hu
      · rw [List.mem_singleton.1 ht, List.mem_singleton.1 hu]
        exact fun _ => ⟨rfl, rfl⟩

/-- The counters of the sequences that are the first of their names. -/
def ofFirsts (sequences : List Sequence) : List Counter :=
  (firsts sequences).map ofSequence

theorem ofFirsts_append_singleton (met : List Sequence) (s : Sequence) : ofFirsts (met ++ [s]) =
    if (firsts met).any s.shares then ofFirsts met else ofFirsts met ++ [ofSequence s] := by
  rw [ofFirsts, firsts_append_singleton]
  split
  · rfl
  · exact List.map_append

theorem nodup_ofFirsts (sequences : List Sequence) :
    ((ofFirsts sequences).map fun c => Text.lowerCase c.table).Nodup := by
  rw [ofFirsts, List.map_map]
  exact nodup_firsts sequences

theorem agrees_ofSequence_iff : (ofSequence t).agrees (ofSequence s) = true ↔
    t.strategy = s.strategy ∧ t.initialValue = s.initialValue := by
  simp [agrees, ofSequence]

/-- What adding comes to for a sequence that names no table. -/
theorem add_ofFirsts (hdeclared : layout.declares s.backingTable = false) :
    add layout (ofFirsts met) s =
    match (firsts met).find? s.shares with
    | none => .ok (ofFirsts met ++ [ofSequence s])
    | some first =>
      if (ofSequence first).agrees (ofSequence s) then .ok (ofFirsts met)
      else .error (.conflictingSequence s.backingTable) := by
  have hfind : (ofFirsts met).find? (fun c => Text.sameName c.table s.backingTable) =
      ((firsts met).find? s.shares).map ofSequence := List.find?_map
  have htable : (ofSequence s).table = s.backingTable := rfl
  unfold add
  dsimp only
  rw [htable, hdeclared, if_neg Bool.false_ne_true, hfind]
  cases (firsts met).find? s.shares <;> rfl

/-- **One more sequence after plannable ones** breaks nothing and has its counter or adds it, or it
is in breach. -/
theorem add_of_plannable (h : Plannable layout met) (s : Sequence) :
    (Plannable layout (met ++ [s]) ∧ add layout (ofFirsts met) s = .ok (ofFirsts (met ++ [s]))) ∨
      ∃ e, Breach layout met s e ∧ add layout (ofFirsts met) s = .error e := by
  cases hdeclared : layout.declares s.backingTable with
  | true =>
    refine .inr ⟨_, .table (Layout.declares_iff.1 hdeclared), ?_⟩
    unfold add
    exact if_pos hdeclared
  | false =>
    have hapart : ∀ p ∈ layout.order, Text.lowerCase p.name ≠ Text.lowerCase s.backingTable := by
      intro p hp hname
      rw [Layout.declares_iff.2 ⟨p, hp, hname⟩] at hdeclared
      nomatch hdeclared
    rw [add_ofFirsts hdeclared, ofFirsts_append_singleton]
    cases hfirst : (firsts met).find? s.shares with
    | none =>
      have hnew : ∀ b ∈ firsts met, ¬ s.shares b = true := List.find?_eq_none.1 hfirst
      have hany : ¬ (firsts met).any s.shares = true := by simpa using hnew
      refine .inl ⟨h.append_singleton hapart fun b hb hname => ?_, ?_⟩
      -- no sequence before names this counter, as the first of that name would have been kept
      · obtain ⟨first, hfind, hshares⟩ := exists_find?_shares hb
        exact absurd (shares_iff.2 ((shares_iff.1 hshares).trans hname))
          (hnew first (mem_firsts_of_find? hfind))
      · rw [if_neg hany]
    | some first =>
      have hmem : first ∈ met := mem_of_mem_firsts (List.mem_of_find?_eq_some hfirst)
      have hname : Text.lowerCase first.backingTable = Text.lowerCase s.backingTable :=
        shares_iff.1 (List.find?_some hfirst)
      have hany : (firsts met).any s.shares = true :=
        List.any_eq_true.2 ⟨first, List.mem_of_find?_eq_some hfirst, List.find?_some hfirst⟩
      by_cases hagrees : (ofSequence first).agrees (ofSequence s) = true
      · refine .inl ⟨h.append_singleton hapart fun b hb hbname => ?_, ?_⟩
        -- the sequences before count like the first one of the name, and that one counts like `s`
        · obtain ⟨hstrategy, hvalue⟩ := h.compatible b hb first hmem (hbname.trans hname.symm)
          obtain ⟨hstrategy', hvalue'⟩ := agrees_ofSequence_iff.1 hagrees
          exact ⟨hstrategy.trans hstrategy', hvalue.trans hvalue'⟩
        · rw [if_pos hany]
          exact if_pos hagrees
      · refine .inr ⟨_, .conflict hapart ⟨first, hmem, fun hcompatible => ?_⟩, if_neg hagrees⟩
        exact hagrees (agrees_ofSequence_iff.2 (hcompatible hname))

/-- **Planning goes through plannable sequences and stops at the first breach.** -/
theorem ofSequences_cases (layout : Layout) (sequences : List Sequence) :
    (Plannable layout sequences ∧ ofSequences layout sequences = .ok (ofFirsts sequences)) ∨
      ∃ e, FirstBreach layout sequences e ∧ ofSequences layout sequences = .error e := by
  induction sequences using List.reverseRecOn with
  | nil => exact .inl ⟨⟨by simp, by simp⟩, rfl⟩
  | append_singleton met s ih =>
    have hlast : ofSequences layout (met ++ [s]) =
        ofSequences layout met >>= fun counters => add layout counters s := by
      rw [ofSequences, List.foldlM_append]
      simp only [List.foldlM_cons, List.foldlM_nil, bind_pure]
      rfl
    rcases ih with ⟨hplannable, hok⟩ | ⟨e, ⟨before, t, after, rfl, hbefore, hbreach⟩, herror⟩
    · have hstep : ofSequences layout (met ++ [s]) = add layout (ofFirsts met) s := by
        rw [hlast, hok]
        rfl
      rw [hstep]
      rcases add_of_plannable hplannable s with hadded | ⟨e, hbreach, hrefused⟩
      · exact .inl hadded
      · exact .inr ⟨e, ⟨met, s, [], rfl, hplannable, hbreach⟩, hrefused⟩
    · refine .inr ⟨e, ⟨before, t, after ++ [s], by simp, hbefore, hbreach⟩, ?_⟩
      rw [hlast, herror]
      rfl

theorem ofSequences_eq_ok_iff {counters : List Counter} :
    ofSequences layout sequences = .ok counters ↔
    Plannable layout sequences ∧ counters = ofFirsts sequences := by
  rcases ofSequences_cases layout sequences with ⟨hplannable, hok⟩ | ⟨e, hbreach, herror⟩
  · rw [hok]
    constructor
    · intro h
      exact ⟨hplannable, (Except.ok.inj h).symm⟩
    · rintro ⟨-, rfl⟩
      rfl
  · rw [herror]
    constructor
    · intro h
      nomatch h
    · rintro ⟨hplannable, -⟩
      exact absurd hplannable hbreach.not_plannable

/-- There is one first breach at most. -/
theorem FirstBreach.unique (h : FirstBreach layout sequences e)
    (h' : FirstBreach layout sequences e') : e = e' := by
  obtain ⟨met, s, after, rfl, hmet, hbreach⟩ := h
  obtain ⟨met', s', after', hsplit, hmet', hbreach'⟩ := h'
  -- a breach within what stands before the other one is impossible, so that both are in one place
  rcases List.append_eq_append_iff.1 hsplit with ⟨more, rfl, hrest⟩ | ⟨more, rfl, hrest⟩
  · cases more with
    | nil =>
      obtain ⟨rfl, -⟩ := List.cons.inj hrest
      rw [List.append_nil] at hbreach'
      exact hbreach.unique hbreach'
    | cons t more =>
      obtain ⟨rfl, -⟩ := List.cons.inj hrest
      exact absurd hmet' hbreach.not_plannable
  · cases more with
    | nil =>
      obtain ⟨rfl, -⟩ := List.cons.inj hrest
      rw [List.append_nil] at hbreach
      exact hbreach.unique hbreach'
    | cons t more =>
      obtain ⟨rfl, -⟩ := List.cons.inj hrest
      exact absurd hmet hbreach'.not_plannable

theorem ofSequences_eq_error_iff :
    ofSequences layout sequences = .error e ↔ FirstBreach layout sequences e := by
  rcases ofSequences_cases layout sequences with ⟨hplannable, hok⟩ | ⟨e', hbreach, herror⟩
  · rw [hok]
    constructor
    · intro h
      nomatch h
    · intro h
      exact absurd hplannable h.not_plannable
  · rw [herror]
    constructor
    · intro h
      obtain rfl := Except.error.inj h
      exact hbreach
    · intro h
      rw [hbreach.unique h]

/-- **What planning comes to.** It succeeds exactly if no sequence names a table and those that name
one counter count alike, whatever their order. Otherwise the error is that of the first sequence in
breach. The counters are those of the sequences that are the first of their names, and no two of
them share a name. -/
theorem ofSequences_outcome (layout : Layout) (sequences : List Sequence) :
    ((∃ counters, ofSequences layout sequences = .ok counters) ↔ Plannable layout sequences) ∧
    (∀ shuffled, sequences.Perm shuffled →
      ((∃ counters, ofSequences layout sequences = .ok counters) ↔
        ∃ counters, ofSequences layout shuffled = .ok counters)) ∧
    (∀ e, ofSequences layout sequences = .error e ↔ FirstBreach layout sequences e) ∧
    ∀ counters, ofSequences layout sequences = .ok counters →
      counters = (firsts sequences).map ofSequence ∧
        (counters.map fun c => Text.lowerCase c.table).Nodup := by
  have hplannable : ∀ sequences, (∃ counters, ofSequences layout sequences = .ok counters) ↔
      Plannable layout sequences := by
    intro sequences
    simp only [ofSequences_eq_ok_iff, exists_and_left, exists_eq, and_true]
  refine ⟨hplannable sequences, fun shuffled hperm => ?_, fun e => ofSequences_eq_error_iff,
    fun counters h => ?_⟩
  · rw [hplannable, hplannable]
    exact ⟨fun h => h.perm hperm, fun h => h.perm hperm.symm⟩
  · obtain ⟨-, rfl⟩ := ofSequences_eq_ok_iff.1 h
    exact ⟨rfl, nodup_ofFirsts sequences⟩

end Counter

end Interleave
