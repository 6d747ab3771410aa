import Interleave.Proofs.Grouping
import Interleave.Proofs.Hierarchy.Rearrangement
import Interleave.Proofs.Removal.Repeats

/-!
# The order of objects

Constraints are translated as they are declared, and their objects are then sorted by the position
of the table that they belong to.

* `Layout.index?_getElem`: the position of a table. `Layout.pairwise_index?`: positions ascend.
* `Constraint.owner_of_toFragment`, `Constraint.sort_of_toFragment`: whose object a constraint
  becomes, and of what sort.
* `Schema.objectsOf`, `Schema.objects`: the objects of one sort of one table, and those of all
  tables.
* `Design.ofSort_eq_objects`: a design has its objects in this order.
* `Schema.objects_grouped`: **a create batch adds indexes, then foreign keys, then checks, each of
  them table by table in creation order and for one table in declaration order.** A drop batch drops
  the indexes in the same order.
-/

namespace Interleave

open Hierarchy

variable {layout : Layout} {c : Constraint} {f : Fragment} {schema : Schema} {d : Design}
  {existing : Catalog} {action : Action} {script : Script Statement} {name : String}

/-! ## Positions -/

namespace Layout

theorem index?_getElem {i : Nat} (hd : (layout.order.map (·.name)).Nodup)
    (hi : i < layout.order.length) :
    layout.index? layout.order[i].name = some i := by
  rw [index?, List.findIdx?_eq_some_iff_getElem]
  refine ⟨hi, by simp, fun j hji => ?_⟩
  have hne := List.pairwise_iff_getElem.1 hd j i (by rw [List.length_map]; omega)
      (by rwa [List.length_map]) hji
  rw [List.getElem_map, List.getElem_map] at hne
  simpa using hne

/-- Tables stand in the order of their positions. -/
theorem pairwise_index? (hd : (layout.order.map (·.name)).Nodup) :
    (layout.order.map (·.name)).Pairwise fun a b =>
    (layout.index? a).getD 0 < (layout.index? b).getD 0 := by
  refine List.pairwise_iff_getElem.2 fun i j hi hj hij => ?_
  rw [List.length_map] at hi hj
  rw [List.getElem_map, List.getElem_map, index?_getElem hd hi, index?_getElem hd hj]
  exact hij

end Layout

/-! ## Owners and sorts -/

namespace Constraint

/-- The sort of object that constraints of this kind become. -/
def sort (c : Constraint) : Fragment.Sort :=
  match c.kind with
  | .unique | .index => .index
  | .foreignKey _ _ => .foreignKey
  | .check _ _ => .check

/-- An object belongs to the table of its constraint. -/
theorem owner_of_toFragment (h : c.toFragment layout = .ok (some f)) : f.owner = c.table := by
  cases becomes_of_toFragment h with
  | index | foreignKey | check => rfl

/-- An object is of its constraint's sort. -/
theorem sort_of_toFragment (h : c.toFragment layout = .ok (some f)) : f.sort = c.sort := by
  unfold sort
  cases becomes_of_toFragment h with
  | @index unique hkind =>
    rw [hkind]
    cases unique <;> rfl
  | foreignKey hkind | check hkind =>
    rw [hkind]
    rfl

theorem filter_fragment? {g : Fragment → Bool} {k : Constraint → Bool}
    (h : ∀ c f, c.toFragment layout = .ok (some f) → g f = k c) (constraints : List Constraint) :
    (constraints.filterMap (·.fragment? layout)).filter g =
      (constraints.filter k).filterMap (·.fragment? layout) := by
  rw [List.filter_filterMap, List.filterMap_filter]
  refine List.filterMap_congr fun c _ => ?_
  cases hc : c.fragment? layout with
  | none => simp
  | some f => rw [Option.filter_some, h c f (fragment?_eq_some.1 hc)]

end Constraint

/-! ## Objects in order -/

namespace Schema

/-- The objects of one sort that the constraints on a table become, in declaration order. -/
def objectsOf (schema : Schema) (layout : Layout) (sort : Fragment.Sort) (p : PlacedTable) :
    List Fragment :=
  (schema.constraints.filter fun c => c.sort == sort && c.table == p.name).filterMap
    (·.fragment? layout)

/-- The objects of one sort, table by table in creation order. -/
def objects (schema : Schema) (layout : Layout) (sort : Fragment.Sort) : List Fragment :=
  layout.order.flatMap (schema.objectsOf layout sort)

end Schema

namespace Design

/-- The objects of a design are grouped by table. -/
theorem fragments_eq_flatMap (h : ofSchema schema = .ok d) :
    d.fragments = d.layout.order.flatMap fun p =>
    (schema.constraints.filter (·.table == p.name)).filterMap (·.fragment? d.layout) := by
  obtain ⟨hlayout, -, fragments, hfragments, hsorted⟩ := ofSchema_eq_ok.1 h
  rw [Constraint.filterMap_fragment? hfragments] at hsorted
  have htrans : ∀ f g k, ownerOrder d.layout f g = true → ownerOrder d.layout g k = true →
      ownerOrder d.layout f k = true := by
    simp only [ownerOrder, decide_eq_true_eq]
    omega
  have htotal : ∀ f g, (ownerOrder d.layout f g || ownerOrder d.layout g f) = true := by
    simp only [ownerOrder, Bool.or_eq_true, decide_eq_true_eq]
    omega
  have hplaced : ∀ f ∈ d.fragments, f.owner ∈ d.layout.order.map (·.name) := by
    intro f hf
    obtain ⟨c, -, hc⟩ := (mem_fragments h).1 hf
    obtain ⟨p, hp, hname, -⟩ := (Constraint.toFragment_ok hc).1
    rw [Constraint.owner_of_toFragment hc, ← hname]
    exact List.mem_map_of_mem hp
  have hpairwise : d.fragments.Pairwise fun f g =>
      (d.layout.index? f.owner).getD 0 ≤ (d.layout.index? g.owner).getD 0 := by
    rw [hsorted]
    exact (List.pairwise_mergeSort htrans htotal _).imp of_decide_eq_true
  -- the sort does not tell apart what belongs to one table, so each group is in declaration order
  have hgroup : ∀ owner, d.fragments.filter (·.owner == owner) =
      (schema.constraints.filter (·.table == owner)).filterMap (·.fragment? d.layout) := by
    intro owner
    rw [hsorted, filter_mergeSort htrans htotal, Constraint.filter_fragment?]
    · intro c f hf
      rw [Constraint.owner_of_toFragment hf]
    · intro f g hf hg
      rw [beq_iff_eq] at hf hg
      rw [ownerOrder, hf, hg]
      exact decide_eq_true (Nat.le_refl _)
  have hgroups := eq_flatMap_of_pairwise (Layout.pairwise_index? (nodup_names_of_ofTables hlayout))
      hplaced hpairwise
  rw [hgroups, List.flatMap_map]
  exact List.flatMap_congr fun p _ => hgroup p.name

/-- **A design has its objects in order.** -/
theorem ofSort_eq_objects (h : ofSchema schema = .ok d) (sort : Fragment.Sort) :
    d.ofSort sort = schema.objects d.layout sort := by
  have hsort : ∀ c f, Constraint.toFragment c d.layout = .ok (some f) →
      (f.sort == sort) = (c.sort == sort) := by
    intro c f hf
    rw [Constraint.sort_of_toFragment hf]
  rw [ofSort, fragments_eq_flatMap h, List.filter_flatMap]
  refine List.flatMap_congr fun p _ => ?_
  rw [Constraint.filter_fragment? hsort, List.filter_filter]
  rfl

/-- Every object is of one of the sorts. -/
theorem perm_ofSort (d : Design) :
    (d.ofSort .index ++ d.ofSort .foreignKey ++ d.ofSort .check).Perm d.fragments := by
  have hindexes := List.filter_append_perm (·.sort == .index) d.fragments
  have hkeys := List.filter_append_perm (·.sort == .foreignKey)
      (d.fragments.filter fun f => !(f.sort == .index))
  have hkey : (d.fragments.filter fun f => !(f.sort == .index)).filter (·.sort == .foreignKey) =
      d.ofSort .foreignKey := by
    rw [List.filter_filter]
    exact List.filter_congr fun f _ => by cases f.sort <;> rfl
  have hcheck : (d.fragments.filter fun f => !(f.sort == .index)).filter
      (fun f => !(f.sort == .foreignKey)) =
      d.ofSort .check := by
    rw [List.filter_filter]
    exact List.filter_congr fun f _ => by cases f.sort <;> rfl
  rw [hkey, hcheck] at hkeys
  rw [List.append_assoc]
  exact (hkeys.append_left _).trans hindexes

/-- Indexes are dropped in the order in which they are created. -/
theorem droppedIndexes_eq (d : Design) (existing : Catalog) : d.droppedIndexes existing =
    ((d.ofSort .index).filter fun f => existing.containsIndex f.name).map (·.name) := by
  rw [droppedIndexes, targetIndexes, ofSort]
  induction d.fragments with
  | nil => rfl
  | cons f rest ih =>
    cases f with
    | index table name unique columns =>
      have hfirst : (Fragment.index table name unique columns :: rest).filterMap
        TargetIndex.ofFragment? =
          ⟨name, table⟩ :: rest.filterMap TargetIndex.ofFragment? := rfl
      have hfirst' : (Fragment.index table name unique columns :: rest).filter (·.sort == .index) =
          .index table name unique columns :: rest.filter (·.sort == .index) := rfl
      rw [hfirst, hfirst', List.filter_cons, List.filter_cons, Fragment.name]
      split
      · rw [List.map_cons, List.map_cons, ih]
        rfl
      · exact ih
    | foreignKey => exact ih
    | check => exact ih

end Design

namespace Schema

/-- **Objects are created sort by sort, table by table, and for one table in declaration order.** A
schema that has a script has its tables laid out, its counters planned and its constraints accepted.
Each object of a constraint is created once. Indexes that exist are dropped in the order in which
they are created. What is sent is what the statements say. -/
theorem objects_grouped (h : schema.script existing action = .ok script) : ∃ layout counters,
    Layout.ofTables schema.tables = .ok layout ∧
      Counter.ofSequences layout schema.sequences = .ok counters ∧
      (∀ c ∈ schema.constraints, ∃ f?, c.toFragment layout = .ok f?) ∧
      (schema.objects layout .index ++ schema.objects layout .foreignKey ++
        schema.objects layout .check).Perm
        (schema.constraints.filterMap (·.fragment? layout)) ∧
      (action.creates = true → script.batch? .create = some ⟨.create,
        layout.order.map .createTable ++ counters.map .createCounter ++
        (schema.objects layout .index).map .add ++
          (schema.objects layout .foreignKey).map .add ++
            (schema.objects layout .check).map .add⟩) ∧
      (action.drops = true → ∃ drops, script.batch? .drop = some ⟨.drop, drops⟩ ∧
        drops.filterMap Statement.droppedIndex? =
          ((schema.objects layout .index).filter fun f => existing.containsIndex f.name).map
            (·.name)) ∧
      ∃ sent, schema.scriptText existing action = .ok sent ∧ script.Says sent := by
  have hsent := scriptText_says h
  obtain ⟨d, hd, rfl⟩ := script_eq_ok.1 h
  obtain ⟨hlayout, hcounters, fragments, hfragments, -⟩ := Design.ofSchema_eq_ok.1 hd
  have hobjects := Design.ofSort_eq_objects hd
  refine ⟨d.layout, d.counters, hlayout, hcounters, fun c hc => ?_, ?_, fun hcreates => ?_,
    fun hdrops => ?_, hsent⟩
  · obtain ⟨f?, -, hf⟩ := exists_of_forall₂ hfragments c hc
    exact ⟨f?, hf⟩
  · rw [← hobjects, ← hobjects, ← hobjects]
    exact d.perm_ofSort.trans (Design.perm_fragments hd)
  · rw [← hobjects, ← hobjects, ← hobjects]
    exact batch?_create hcreates
  · refine ⟨_, batch?_drop hdrops, ?_⟩
    rw [Design.filterMap_droppedIndex?, Design.droppedIndexes_eq, hobjects]

end Schema

/-- The hotels with constraints on either table, in no order. -/
def busyHotels : Schema :=
  { hotels with
    constraints := [
      (Constraint.check "Room" "RoomId > 0").named "RoomNumber",
      (Constraint.index "Room" ["RoomId"]).named "RoomById",
      (Constraint.foreignKey "Room" ["HotelId"] "Hotel").named "RoomHotel",
      (Constraint.check "Hotel" "Name > ''").named "HotelNamed",
      (Constraint.unique "Hotel" ["Name"]).named "HotelByName", .unique "Hotel" ["HotelId"]] }

/-- The hotels are placed before the rooms. -/
def hotelLayout : Layout :=
  ⟨List.zipWith .mk hotels.tables.reverse [["HotelId"], ["HotelId", "RoomId"]]⟩

/-- The unique constraint over the key becomes no object. -/
theorem Schema.objects_grouped_hotels : ∃ script creates drops,
    busyHotels.script hotelCatalog .replace = .ok script ∧
    script.batch? .create = some ⟨.create, creates⟩ ∧
    script.batch? .drop = some ⟨.drop, drops⟩ ∧
    creates.drop 3 = [.add (.index "Hotel" "HotelByName" true ["Name"]),
      .add (.index "Room" "RoomById" false ["RoomId"]),
      .add (.foreignKey "Room" "RoomHotel" ["HotelId"] "Hotel" ["HotelId"]),
      .add (.check "Hotel" "HotelNamed" "Name > ''"),
      .add (.check "Room" "RoomNumber" "RoomId > 0")] ∧
    drops.filterMap Statement.droppedIndex? = ["HotelByName"] ∧
    ∃ sent, busyHotels.scriptText hotelCatalog .replace = .ok sent ∧ script.Says sent := by
  obtain ⟨d, hd, -⟩ := exists_ok_of_any (x := Design.ofSchema busyHotels) (p := fun _ => true)
    (by decide +kernel)
  have h : busyHotels.script hotelCatalog .replace = .ok ⟨d.batches hotelCatalog .replace⟩ :=
    Schema.script_eq_ok.2 ⟨d, hd, rfl⟩
  obtain ⟨layout, counters, hlayout, hcounters, -, -, hcreate, hdrop, hsent⟩ :=
    Schema.objects_grouped h
  have hlayout' : Layout.ofTables busyHotels.tables = .ok hotelLayout := by decide +kernel
  obtain rfl : hotelLayout = layout := Except.ok.inj (hlayout'.symm.trans hlayout)
  have hcounters' : Counter.ofSequences hotelLayout busyHotels.sequences =
      .ok (hotels.sequences.map Counter.ofSequence) := by decide +kernel
  obtain rfl : hotels.sequences.map Counter.ofSequence = counters :=
    Except.ok.inj (hcounters'.symm.trans hcounters)
  obtain ⟨drops, hdropped, hnames⟩ := hdrop rfl
  refine ⟨_, _, drops, h, hcreate rfl, hdropped, by decide +kernel, ?_, hsent⟩
  rw [hnames]
  decide +kernel

end Interleave
