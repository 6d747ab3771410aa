import Interleave.Proofs.Removal.Repeats

/-!
# What exists, as it is listed

What exists on the target is known from names that are listed somehow. Only a drop batch looks at
them.

* `Design.dropStatements_sublist`: where more exists more is dropped, in one order.
* `Batch.Grows`, `Script.Grows`: nothing is changed but for more statements in drop batches.
* `Schema.script_of_listing`: **a script depends on the set of names that are listed, ignoring case.
  If more of them are listed, the script grows.**
-/

namespace Interleave

variable {schema : Schema} {d : Design} {existing existing' : Catalog} {action : Action}

/-- The second batch is the first one, or a drop batch with statements inserted. -/
inductive Batch.Grows : Batch Statement → Batch Statement → Prop
  | drop {drops drops' : List Statement} (h : drops.Sublist drops') :
    Grows ⟨.drop, drops⟩ ⟨.drop, drops'⟩
  | same (b : Batch Statement) : Grows b b

/-- Batch for batch. -/
def Script.Grows (script script' : Script Statement) : Prop :=
  List.Forall₂ Batch.Grows script.batches script'.batches

namespace Design

/-- What is dropped where less exists is dropped, in the same order, where more exists. -/
theorem dropStatements_sublist (d : Design) (h : existing.Within existing') :
    (d.dropStatements existing).Sublist (d.dropStatements existing') := by
  have hindexes : (d.droppedIndexes existing).Sublist (d.droppedIndexes existing') := by
    have hkept := List.monotone_filter_right d.targetIndexes fun i => h.indexes i.name
    exact hkept.map _
  have htables : (d.droppedTables existing).Sublist (d.droppedTables existing') := by
    have hplaced := List.monotone_filter_right d.layout.removalOrder fun p => h.tables p.name
    have hcounted := List.monotone_filter_right d.counters fun c => h.tables c.table
    exact (hplaced.map _).append (hcounted.map _)
  rw [dropStatements_eq_names, dropStatements_eq_names]
  exact (hindexes.map _).append (htables.map _)

/-- Only the drop batch looks at what exists. -/
theorem batches_grow (d : Design) (action : Action) (h : existing.Within existing') :
    List.Forall₂ Batch.Grows (d.batches existing action) (d.batches existing' action) := by
  have hsame : ∀ batches, List.Forall₂ Batch.Grows batches batches := fun _ =>
    List.forall₂_same.2 fun b _ => .same b
  unfold batches
  refine List.rel_append (List.rel_append ?_ (hsame _)) (hsame _)
  split
  · exact .cons (.drop (d.dropStatements_sublist h)) .nil
  · exact .nil

end Design

namespace Schema

theorem script_grows (schema : Schema) (action : Action) (h : existing.Within existing') :
    (∃ e, schema.script existing action = .error e ∧ schema.script existing' action = .error e) ∨
      ∃ script script', schema.script existing action = .ok script ∧
      schema.script existing' action = .ok script' ∧
        script.Grows script' := by
  cases hd : Design.ofSchema schema with
  | error e =>
    have hrefused : ∀ existing, schema.script existing action = .error e :=
      fun _ => bind_eq_error.2 (.inl hd)
    exact .inl ⟨e, hrefused existing, hrefused existing'⟩
  | ok d =>
    have hscript : ∀ existing, schema.script existing action = .ok ⟨d.batches existing action⟩ :=
      fun _ =>
      script_eq_ok.2 ⟨d, hd, rfl⟩
    exact .inr ⟨_, _, hscript existing, hscript existing', d.batches_grow action h⟩

/-- **A script depends on what is listed, and not on how.** Order, repetition and case of the names
do not matter. Listing more names leaves an error as it is, and otherwise inserts statements into
the drop batch and changes nothing else. -/
theorem script_of_listing (schema : Schema) (action : Action)
    (tables tables' indexes indexes' : List String) :
    ((∀ name, name ∈ tables.map Text.lowerCase ↔ name ∈ tables'.map Text.lowerCase) →
      (∀ name, name ∈ indexes.map Text.lowerCase ↔ name ∈ indexes'.map Text.lowerCase) →
      schema.script (Catalog.ofNames tables indexes) action =
        schema.script (Catalog.ofNames tables' indexes') action) ∧
    ((∀ name ∈ tables.map Text.lowerCase, name ∈ tables'.map Text.lowerCase) →
      (∀ name ∈ indexes.map Text.lowerCase, name ∈ indexes'.map Text.lowerCase) →
      (∃ e, schema.script (Catalog.ofNames tables indexes) action = .error e ∧
        schema.script (Catalog.ofNames tables' indexes') action = .error e) ∨
      ∃ script script', schema.script (Catalog.ofNames tables indexes) action = .ok script ∧
        schema.script (Catalog.ofNames tables' indexes') action = .ok script' ∧
        script.Grows script') := by
  constructor
  · intro htables hindexes
    rw [Catalog.ofNames_eq_iff.2 ⟨htables, hindexes⟩]
  · intro htables hindexes
    exact script_grows schema action (Catalog.within_ofNames htables hindexes)

/-- The hotels' catalog may be listed in capitals and twice. Where the rooms stand too, more is
dropped. -/
theorem script_of_listing_hotels :
    hotels.script (Catalog.ofNames ["HOTEL", "hotel"] ["HOTELBYNAME"]) .replace =
      hotels.script hotelCatalog .replace ∧
    ∃ script script', hotels.script hotelCatalog .replace = .ok script ∧
      hotels.script (Catalog.ofNames ["ROOM", "Hotel"] ["HotelByName"]) .replace = .ok script' ∧
      script.Grows script' := by
  have hcapitals : ["HOTEL", "hotel"].map Text.lowerCase = ["hotel", "hotel"] := by decide +kernel
  have htable : ["Hotel"].map Text.lowerCase = ["hotel"] := by decide +kernel
  have hindex : ["HOTELBYNAME"].map Text.lowerCase =
      ["HotelByName"].map Text.lowerCase := by decide +kernel
  obtain ⟨hsame, -⟩ :=
    script_of_listing hotels .replace ["HOTEL", "hotel"] ["Hotel"] ["HOTELBYNAME"] ["HotelByName"]
  obtain ⟨-, hmore⟩ :=
    script_of_listing hotels .replace ["Hotel"] ["ROOM", "Hotel"] ["HotelByName"] ["HotelByName"]
  refine ⟨hsame (by simp [hcapitals, htable]) (by simp [hindex]), ?_⟩
  rcases hmore (by decide +kernel) (fun _ h => h) with ⟨e, herror, -⟩ | hgrows
  · obtain ⟨script, hscript, -⟩ :=
      exists_ok_of_any (x := hotels.script hotelCatalog .replace) (p := fun _ => true)
        (by decide +kernel)
    rw [hotelCatalog, herror] at hscript
    nomatch hscript
  · exact hgrows

end Schema

end Interleave
