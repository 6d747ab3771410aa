import Interleave.Proofs.Creation

/-!
# One counter for each sequence

A sequence asks for a counter and may have to share it. Whatever it shares, it finds its counter
made and primed as it asked.

* `Statement.creates`, `Statement.seeds`: the statement creates a table of a name, or primes a
  counter of that name.
* `Counter.exists_first`: the counter that a sequence has. The first sequence of the name lends it
  the spelling, and all of them the rest.
* `Design.Suits.filter_creates`, `Design.Suits.filter_seeds`: what the batches of a design hold
  under the name of a counter: the statement that creates it, and the one that primes it.
* `Schema.counters_seeded`: **each sequence has its counter created once and seeded once**, and a
  script ends with the seeds.
-/

namespace Interleave

open Sequence

variable {schema : Schema} {d : Design} {existing : Catalog} {action : Action}
  {script : Script Statement} {layout : Layout} {sequences : List Sequence} {q : Sequence}
  {c : Counter} {name : String}

namespace Statement

/-- The statement creates a table of this name, ignoring case. -/
def creates (name : String) : Statement → Bool
  | .createTable p => Text.sameName p.name name
  | .createCounter c => Text.sameName c.table name
  | _ => false

/-- The statement primes a counter of this name, ignoring case. -/
def seeds (name : String) : Statement → Bool
  | .seed c => Text.sameName c.table name
  | _ => false

end Statement

namespace Counter

/-- **The counter of a sequence** is spelled as the first sequence of the name spells it, and counts
as every one of them asks. -/
theorem exists_first (h : Plannable layout sequences) (hq : q ∈ sequences) : ∃ first,
    sequences.find? q.shares = some first ∧
      Text.lowerCase first.backingTable = Text.lowerCase q.backingTable ∧
      ⟨first.backingTable, q.initialValue, q.strategy⟩ ∈ ofFirsts sequences := by
  obtain ⟨first, hfind, hshares⟩ := exists_find?_shares hq
  have hname := shares_iff.1 hshares
  obtain ⟨hstrategy, hvalue⟩ := h.compatible first (List.mem_of_find?_eq_some hfind) q hq hname
  refine ⟨first, hfind, hname, ?_⟩
  rw [← hstrategy, ← hvalue]
  exact List.mem_map_of_mem (mem_firsts_of_find? hfind)

/-- There is a counter as soon as there is a sequence. -/
theorem isEmpty_ofFirsts (sequences : List Sequence) :
    (ofFirsts sequences).isEmpty = sequences.isEmpty := by
  cases sequences with
  | nil => rfl
  | cons q rest =>
    obtain ⟨first, hfind, -⟩ := exists_find?_shares (List.mem_cons_self (a := q) (l := rest))
    have hc : ofSequence first ∈ ofFirsts (q :: rest) :=
      List.mem_map_of_mem (mem_firsts_of_find? hfind)
    rw [List.isEmpty_eq_false_iff_exists_mem.2 ⟨_, hc⟩]
    rfl

/-- A counter is the only one of its name. -/
theorem filter_sameName {counters : List Counter}
    (hd : (counters.map fun c => Text.lowerCase c.table).Nodup) (hc : c ∈ counters)
    (hname : Text.lowerCase c.table = Text.lowerCase name) :
    counters.filter (fun b => Text.sameName b.table name) = [c] := by
  obtain ⟨first, second, rfl⟩ := List.append_of_mem hc
  rw [List.map_append, List.map_cons, List.nodup_middle, List.nodup_cons, ← List.map_append] at hd
  have hothers : ∀ b ∈ first ++ second, ¬ Text.sameName b.table name = true := by
    intro b hb hsame
    exact hd.1 (List.mem_map.2 ⟨b, hb, (Text.sameName_iff.1 hsame).trans hname.symm⟩)
  have hfirst : first.filter (fun b => Text.sameName b.table name) = [] :=
    List.filter_eq_nil_iff.2 fun b hb => hothers b (List.mem_append_left _ hb)
  have hsecond : second.filter (fun b => Text.sameName b.table name) = [] :=
    List.filter_eq_nil_iff.2 fun b hb => hothers b (List.mem_append_right _ hb)
  have hrest : (c :: second).filter (fun b => Text.sameName b.table name) =
      c :: second.filter (fun b => Text.sameName b.table name) :=
    List.filter_cons_of_pos (Text.sameName_iff.2 hname)
  rw [List.filter_append, hrest, hfirst, hsecond, List.nil_append]

end Counter

namespace Design

/-- A create batch creates one table under the name of a counter. -/
theorem Suits.filter_creates (h : d.Suits schema) (hc : c ∈ d.counters)
    (hname : Text.lowerCase c.table = Text.lowerCase name) :
    d.createStatements.filter (·.creates name) = [.createCounter c] := by
  have htables : (d.layout.order.map Statement.createTable).filter (·.creates name) = [] := by
    refine List.filter_eq_nil_iff.2 fun s hs hcreates => ?_
    obtain ⟨p, hp, rfl⟩ := List.mem_map.1 hs
    -- a table of the counter's name would be declared, and counters are apart from those
    have hdeclared : d.layout.declares c.table = true :=
      Layout.declares_iff.2 ⟨p, hp, (Text.sameName_iff.1 hcreates).trans hname.symm⟩
    rw [h.planned.apart c hc] at hdeclared
    exact Bool.false_ne_true hdeclared
  have hcounters : (d.counters.map Statement.createCounter).filter (·.creates name) =
      [.createCounter c] := by
    have hkept := Counter.filter_sameName h.planned.distinct hc hname
    rw [List.filter_map]
    exact congrArg (List.map Statement.createCounter) hkept
  have hobjects : ∀ fragments : List Fragment,
      (fragments.map Statement.add).filter (·.creates name) = [] := by
    intro fragments
    refine List.filter_eq_nil_iff.2 fun s hs hcreates => ?_
    obtain ⟨f, -, rfl⟩ := List.mem_map.1 hs
    exact Bool.false_ne_true hcreates
  rw [createStatements_eq, List.filter_append, List.filter_append, htables, hcounters, hobjects]
  rfl

/-- A seed batch primes one counter under each name. -/
theorem Suits.filter_seeds (h : d.Suits schema) (hc : c ∈ d.counters)
    (hname : Text.lowerCase c.table = Text.lowerCase name) :
    d.seedStatements.filter (·.seeds name) = [.seed c] := by
  have hkept := Counter.filter_sameName h.planned.distinct hc hname
  rw [seedStatements, List.filter_map]
  exact congrArg (List.map Statement.seed) hkept

/-- The create batch comes after drops only. The seeds come last, if there is anything to seed. -/
theorem batches_of_creates (d : Design) (existing : Catalog)
    (hcreates : action.creates = true) :
    ∃ before, d.batches existing action = before ++ ⟨.create, d.createStatements⟩ ::
        (if d.counters.isEmpty then [] else [⟨.seed, d.seedStatements⟩]) ∧
          ∀ b ∈ before, b.phase = .drop := by
  cases action with
  | drop => nomatch hcreates
  | create =>
    refine ⟨[], ?_, fun b hb => nomatch hb⟩
    unfold batches
    cases d.counters.isEmpty <;> rfl
  | replace =>
    refine ⟨[⟨.drop, d.dropStatements existing⟩], ?_, fun b hb => by rw [List.mem_singleton.1 hb]⟩
    unfold batches
    cases d.counters.isEmpty <;> rfl

end Design

namespace Schema

/-- **Each sequence has one counter.** It is created once, with one column and no key, and seeded
once, as the sequence asks and as the first sequence of its name spells it. No counter has the name
of a table. A script that creates anything ends with the seeds of these counters, or with the create
batch if there are no sequences. -/
theorem counters_seeded (h : schema.script existing action = .ok script)
    (hcreates : action.creates = true) :
    ∃ before creates seeds, script.batches = before ++ ⟨.create, creates⟩ ::
        (if schema.sequences.isEmpty then [] else [⟨.seed, seeds⟩]) ∧
      (∀ b ∈ before, b.phase = .drop) ∧
      (∀ q ∈ schema.sequences, ∃ first c, schema.sequences.find? q.shares = some first ∧
        c = ⟨first.backingTable, q.initialValue, q.strategy⟩ ∧
        creates.filter (·.creates q.backingTable) = [.createCounter c] ∧
        (Statement.createCounter c).text =
          "create table " ++ c.table ++ " (next_val INT64) PRIMARY KEY ()" ∧
        seeds.filter (·.seeds q.backingTable) = [.seed c] ∧
        (Statement.seed c).text = q.strategy.insertText first.backingTable q.initialValue) ∧
      (∀ s ∈ seeds, ∃ q ∈ schema.sequences, s.seeds q.backingTable = true) ∧
      ∀ c ∈ creates.filterMap Statement.counter?, ∀ t ∈ schema.tables,
        Text.lowerCase t.name ≠ Text.lowerCase c.table := by
  obtain ⟨d, hd, rfl⟩ := script_eq_ok.1 h
  have hsuits := Design.suits_of_ofSchema hd
  obtain ⟨hplannable, hcounters⟩ := Counter.ofSequences_eq_ok_iff.1 (Design.ofSchema_eq_ok.1 hd).2.1
  obtain ⟨before, hbatches, hdrops⟩ := d.batches_of_creates existing hcreates
  rw [hcounters, Counter.isEmpty_ofFirsts] at hbatches
  refine ⟨before, d.createStatements, d.seedStatements, hbatches, hdrops, fun q hq => ?_,
    fun s hs => ?_, fun c hc => ?_⟩
  · obtain ⟨first, hfind, hname, hc⟩ := Counter.exists_first hplannable hq
    rw [← hcounters] at hc
    exact ⟨first, _, hfind, rfl, hsuits.filter_creates hc hname, Counter.createText_eq _,
      hsuits.filter_seeds hc hname, Counter.seedText_eq _⟩
  · obtain ⟨c, hc, rfl⟩ := List.mem_map.1 hs
    obtain ⟨q, hq, hname⟩ := List.mem_map.1 ((hsuits.planned.backing _).1 (List.mem_map_of_mem hc))
    exact ⟨q, hq, Text.sameName_iff.2 hname.symm⟩
  · rw [Design.filterMap_counter?, hcounters] at hc
    intro t ht hname
    obtain ⟨q, hq, rfl⟩ := List.mem_map.1 hc
    obtain ⟨p, hp, rfl⟩ := List.mem_map.1 (hsuits.placed.mem_iff.2 ht)
    exact hplannable.apart q (mem_of_mem_firsts hq) p hp hname

end Schema

/-- Guests are numbered by the counter of the hotels, whatever its case, and rooms by a counter of
their own. -/
def numberedHotels : Schema :=
  { hotels with
    sequences := [
      { name := "hotel_ids" }, .bitReversed "RoomId" 100,
      { name := "guests", table := some "HOTEL_IDS" }] }

theorem Schema.counters_seeded_hotels : ∃ script before creates seeds,
    numberedHotels.script {} .replace = .ok script ∧
    script.batches = before ++ [⟨.create, creates⟩, ⟨.seed, seeds⟩] ∧
    creates.filter (·.creates "HOTEL_IDS") = [.createCounter ⟨"hotel_ids", 1, .sequential⟩] ∧
    Statement.text (.createCounter ⟨"hotel_ids", 1, .sequential⟩) =
      "create table hotel_ids (next_val INT64) PRIMARY KEY ()" ∧
    seeds.filter (·.seeds "HOTEL_IDS") = [.seed ⟨"hotel_ids", 1, .sequential⟩] ∧
    Statement.text (.seed ⟨"hotel_ids", 1, .sequential⟩) =
      "INSERT INTO hotel_ids (next_val) VALUES(1)" := by
  obtain ⟨d, hd, -⟩ := exists_ok_of_any (x := Design.ofSchema numberedHotels) (p := fun _ => true)
    (by decide +kernel)
  have h : numberedHotels.script {} .replace = .ok ⟨d.batches {} .replace⟩ :=
    Schema.script_eq_ok.2 ⟨d, hd, rfl⟩
  obtain ⟨before, creates, seeds, hbatches, -, hcounters, -⟩ := Schema.counters_seeded h rfl
  obtain ⟨first, c, hfind, rfl, hcreated, hcreateText, hseeded, hseedText⟩ :=
    hcounters { name := "guests", table := some "HOTEL_IDS" } (by simp [numberedHotels])
  -- the hotels' sequence is the first of the name, as the two differ in case only
  have hfirst : numberedHotels.sequences.find?
      (shares { name := "guests", table := some "HOTEL_IDS" }) =
      some { name := "hotel_ids" } := by decide +kernel
  obtain rfl : ({ name := "hotel_ids" } : Sequence) = first :=
    Option.some.inj (hfirst.symm.trans hfind)
  exact ⟨_, before, creates, seeds, h, hbatches, hcreated, hcreateText, hseeded, hseedText⟩

end Interleave
