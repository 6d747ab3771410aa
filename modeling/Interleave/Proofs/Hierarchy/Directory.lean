import Interleave.Hierarchy.Directory
import Interleave.Proofs.Hierarchy.Progress
import Std.Data.HashMap.Lemmas

/-!
# Lookups do not lead astray

A directory looks tables up by position, and relies on what was entered. This is sound because a
name is entered once, and it is entered once because no table is declared twice and none is placed
twice.

* `Directory.Agrees`: the positions are those of the placed tables. It is kept by entering a new
  name (`Agrees.enter`).
* `Agrees.lookup_eq`, `Agrees.plan_eq`: then a lookup answers what a search would, and a table is
  placed in the same way.
* `Moment`: what a directory may be like between two steps of its building.
* `Building.outcome_step`: what a step can come to. `Building.Sound` holds at every moment, and
  `Sound.step` carries it along.
* `Building.rest`: what the layout comes to from a moment on. No step changes it
  (`Sound.rest_step`).
* `positions_agree`: **at every moment the positions agree with the placed tables**, no lookup leads
  astray, and what comes about is the layout.
-/

namespace Interleave

open Hierarchy

variable {tables waiting : List Table} {d : Directory} {b b' : Building} {p : PlacedTable}
  {t : Table} {inherited : List String} {layout : Layout} {name parent : String}
  {halt : Directory.Halt}

namespace Directory

/-- The positions are those of the placed tables, and no two of these share a name. -/
structure Agrees (d : Directory) : Prop where
  position?_iff : ∀ name i, d.position? name = some i ↔ (d.order[i]?).map (·.name) = some name
  nodup : (d.order.map (·.name)).Nodup

theorem agrees_empty : ({} : Directory).Agrees :=
  ⟨fun name i => by simp [position?], List.nodup_nil⟩

@[simp] theorem order_enter : (d.enter p).order = d.order ++ [p] := rfl

theorem position?_enter (name : String) :
    (d.enter p).position? name =
      if p.name = name then some d.order.length else d.position? name := by
  change (d.positions.insert p.name d.order.length)[name]? = _
  rw [Std.HashMap.getElem?_insert]
  simp only [beq_iff_eq]
  rfl

theorem getElem?_order_enter (i : ℕ) :
    (d.enter p).order[i]? = if i = d.order.length then some p else d.order[i]? := by
  rw [order_enter, List.getElem?_append]
  grind

/-- **Entering a new name** keeps the positions right. -/
theorem Agrees.enter (h : d.Agrees) (hnew : ∀ q ∈ d.order, q.name ≠ p.name) :
    (d.enter p).Agrees := by
  refine ⟨fun name i => ?_, ?_⟩
  · rw [position?_enter, getElem?_order_enter]
    have hold := h.position?_iff name i
    by_cases hname : p.name = name
    · -- the new name has the new position, and none of those before
      subst hname
      have hnone : (d.order[i]?).map (·.name) ≠ some p.name := by
        intro hsome
        obtain ⟨q, hq, hqname⟩ := Option.map_eq_some_iff.1 hsome
        exact hnew q (List.mem_of_getElem? hq) hqname
      by_cases hi : i = d.order.length
      · simp [hi]
      · simp [hi, hnone, Ne.symm hi]
    · by_cases hi : i = d.order.length
      · -- no name had the new position before
        subst hi
        have hend : d.order[d.order.length]? = none := List.getElem?_eq_none le_rfl
        rw [hend] at hold
        simpa [hname] using hold
      · simpa [hname, hi] using hold
  · rw [order_enter, List.map_append, List.nodup_append]
    refine ⟨h.nodup, List.nodup_singleton _, ?_⟩
    rintro x hx y hy rfl
    obtain ⟨q, hq, hqname⟩ := List.mem_map.1 hx
    exact hnew q hq (hqname.trans (List.mem_singleton.1 hy))

namespace Agrees

variable (h : d.Agrees)
include h

/-- A name is known with its table and the position of that, or it is not known. -/
theorem cases (name : String) :
    (∃ i p, d.position? name = some i ∧ d.order[i]? = some p ∧ p.name = name ∧
      d.find? name = some p) ∨
      (d.position? name = none ∧ d.find? name = none) := by
  cases hposition : d.position? name with
  | some i =>
    obtain ⟨p, hp, hname⟩ := Option.map_eq_some_iff.1 ((h.position?_iff name i).1 hposition)
    exact .inl ⟨i, p, rfl, hp, hname,
      (find?_eq_some_iff h.nodup).2 ⟨List.mem_of_getElem? hp, hname⟩⟩
  | none =>
    cases hfind : d.find? name with
    | none => exact .inr ⟨rfl, rfl⟩
    | some p =>
      obtain ⟨hp, hname⟩ := (find?_eq_some_iff h.nodup).1 hfind
      obtain ⟨i, hi⟩ := List.getElem?_of_mem hp
      have hsome : d.position? name = some i :=
        (h.position?_iff name i).2 (by rw [hi, Option.map_some, hname])
      nomatch hsome.symm.trans hposition

/-- A lookup answers what a search would. -/
theorem lookup_eq (name : String) : d.lookup name = .ok (d.find? name) := by
  rcases h.cases name with ⟨i, p, hposition, hp, -, hfind⟩ | ⟨hposition, hfind⟩
  · rw [lookup, hposition, hfind]
    simp only [tableAt, hp]
    rfl
  · rw [lookup, hposition, hfind]

theorem position?_eq (name : String) : d.position? name = d.index? name := by
  have hindex : ∀ i, d.index? name = some i ↔ (d.order[i]?).map (·.name) = some name := by
    intro i
    rw [Layout.index?, List.findIdx?_eq_some_iff_getElem]
    constructor
    · rintro ⟨hi, hname, -⟩
      rw [List.getElem?_eq_getElem hi, Option.map_some, beq_iff_eq.1 hname]
    · intro hi
      obtain ⟨p, hp, hname⟩ := Option.map_eq_some_iff.1 hi
      obtain ⟨hlt, rfl⟩ := List.getElem?_eq_some_iff.1 hp
      refine ⟨hlt, beq_iff_eq.2 hname, fun j hj hjname => ?_⟩
      -- the name would be found in two places
      have hi' := (h.position?_iff name i).2 hi
      have hj' : d.position? name = some j :=
        (h.position?_iff name j).2 (by
          rw [List.getElem?_eq_getElem (hj.trans hlt), Option.map_some, beq_iff_eq.1 hjname])
      have hij : i = j := Option.some.inj (hi'.symm.trans hj')
      omega
  refine Option.ext fun i => ?_
  rw [h.position?_iff, hindex]

theorem contains_iff : d.positions.contains name = true ↔ ∃ p, d.find? name = some p := by
  have hcontains : d.positions.contains name = (d.position? name).isSome :=
    Std.HashMap.contains_eq_isSome_getElem?
  rw [hcontains]
  rcases h.cases name with ⟨i, p, hposition, -, -, hfind⟩ | ⟨hposition, hfind⟩
  · simp [hposition, hfind]
  · simp [hposition, hfind]

theorem tableOf_eq (hfind : d.find? name = some p) : d.tableOf name = .ok p := by
  rcases h.cases name with ⟨i, q, hposition, hq, -, hfind'⟩ | ⟨-, hnone⟩
  · obtain rfl : p = q := Option.some.inj (hfind.symm.trans hfind')
    rw [tableOf, hposition]
    simp only [tableAt, hq]
  · nomatch hfind.symm.trans hnone

/-- What a lookup finds stands at the position of the name. -/
theorem lookup_iff :
    d.lookup name = .ok (some p) ↔ ∃ i, d.position? name = some i ∧ d.order[i]? = some p := by
  rw [h.lookup_eq]
  rcases h.cases name with ⟨i, q, hposition, hq, -, hfind⟩ | ⟨hposition, hfind⟩
  · simp [hposition, hfind, hq]
  · simp [hposition, hfind]

theorem isReady_iff :
    d.isReady t = true ↔ ∃ inherited, inheritedKey? d.toLayout t = some inherited := by
  unfold isReady inheritedKey?
  cases t.parent with
  | none => simp
  | some parent => simp [h.contains_iff]

/-- A child that is ready has its parent at a position. -/
theorem exists_position_of_isReady (hready : d.isReady t = true)
    (hparent : t.parent = some parent) :
    ∃ i, d.position? parent = some i ∧ i < d.order.length := by
  obtain ⟨inherited, hkey⟩ := h.isReady_iff.1 hready
  rcases inheritedKey?_eq_some.1 hkey with ⟨hroot, -⟩ | ⟨name, q, hname, hfind, -⟩
  · nomatch hroot.symm.trans hparent
  · obtain rfl : name = parent := Option.some.inj (hname.symm.trans hparent)
    rcases h.cases name with ⟨i, p, hposition, hp, -, -⟩ | ⟨-, hnone⟩
    · exact ⟨i, hposition, (List.getElem?_eq_some_iff.1 hp).1⟩
    · nomatch hfind.symm.trans hnone

/-- A table that is ready is placed as it would be by searching. -/
theorem plan_eq (hstands : inheritedKey? d.toLayout t = some inherited) :
    d.plan t = (place inherited t).mapError .design := by
  rcases inheritedKey?_eq_some.1 hstands with ⟨hroot, rfl⟩ | ⟨parent, q, hparent, hfind, rfl⟩
  · rw [plan, hroot]
    rfl
  · rw [plan, hparent]
    simp only [h.tableOf_eq hfind]
    rfl

end Agrees

end Directory

/-! ## From step to step -/

/-- What a directory may be like between two steps of its building. Nothing is built of tables that
have not passed the checks. -/
inductive Moment (tables : List Table) : Building → Prop
  | start (checked : Checked tables) : Moment tables (.start tables)
  | step {b b' : Building} (before : Moment tables b) (unfinished : b.isFinished = false)
    (step : b.step = .ok b') :
    Moment tables b'

namespace Building

/-- What a step can come to, said with searches in place of lookups. -/
inductive Outcome (b : Building) : Except Directory.Halt Building → Prop
  | waits {t : Table} {ahead : List Table} (meets : b.ahead = t :: ahead)
    (early : inheritedKey? b.directory.toLayout t = none) :
    Outcome b (.ok { b with ahead := ahead, left := b.left ++ [t] })
  | placed {t : Table} {ahead : List Table} {inherited : List String} {p : PlacedTable}
    (meets : b.ahead = t :: ahead) (stands : inheritedKey? b.directory.toLayout t = some inherited)
    (placing : place inherited t = .ok p) :
    Outcome b (.ok { b with directory := b.directory.enter p, ahead := ahead })
  | refused {t : Table} {ahead : List Table} {inherited : List String} {e : DesignError}
    (meets : b.ahead = t :: ahead) (stands : inheritedKey? b.directory.toLayout t = some inherited)
    (refusal : place inherited t = .error e) :
    Outcome b (.error (.design e))
  | again (through : b.ahead = []) (useful : b.directory.order.length ≠ b.stood) :
    Outcome b (.ok { b with ahead := b.left, left := [], stood := b.directory.order.length })
  | vain (through : b.ahead = []) (useless : b.directory.order.length = b.stood) :
    Outcome b (.error (.design (.cyclicHierarchy (b.left.map (·.name)))))

/-- **What a step does.** No lookup leads astray. -/
theorem outcome_step (h : b.directory.Agrees) : b.Outcome b.step := by
  unfold step
  cases hahead : b.ahead with
  | nil =>
    dsimp only
    by_cases hvain : b.directory.order.length = b.stood
    · rw [if_pos hvain]
      exact .vain hahead hvain
    · rw [if_neg hvain]
      exact .again hahead hvain
  | cons t ahead =>
    dsimp only
    cases hkey : inheritedKey? b.directory.toLayout t with
    | none =>
      rw [if_neg (by simp [h.isReady_iff, hkey])]
      exact .waits hahead hkey
    | some inherited =>
      rw [if_pos (h.isReady_iff.2 ⟨_, hkey⟩), h.plan_eq hkey]
      cases hplace : place inherited t with
      | error e => exact .refused hahead hkey hplace
      | ok p => exact .placed hahead hkey hplace

/-- What holds at every moment. No table is lost, and none is placed twice. -/
structure Sound (tables : List Table) (b : Building) : Prop where
  agrees : b.directory.Agrees
  built : Built b.directory.order
  tables : (b.directory.order.map (·.table) ++ (b.left ++ b.ahead)).Perm tables
  stood_le : b.stood ≤ b.directory.order.length

theorem sound_start (tables : List Table) : (start tables).Sound tables :=
  ⟨Directory.agrees_empty, .nil, .refl _, le_rfl⟩

/-- **A step keeps everything in order.** The name that it enters is new, because the table was
waiting. -/
theorem Sound.step (hd : (tables.map Table.name).Nodup) (h : b.Sound tables)
    (hstep : b.step = .ok b') :
    b'.Sound tables := by
  obtain ⟨hagrees, hbuilt, hall, hstood⟩ := h
  have houtcome := outcome_step hagrees
  rw [hstep] at houtcome
  cases houtcome with
  | waits hahead =>
    rw [hahead] at hall
    exact ⟨hagrees, hbuilt, by simpa using hall, hstood⟩
  | @placed t ahead inherited p hahead hkey hplace =>
    rw [hahead] at hall
    -- the table has only changed sides, and the declared names are distinct
    have hmoved : ((b.directory.order ++ [p]).map (·.table) ++ (b.left ++ ahead)).Perm tables := by
      refine List.Perm.trans ?_ hall
      rw [List.map_append, List.map_singleton, table_of_place hplace, List.append_assoc,
        List.singleton_append]
      exact List.perm_middle.symm.append_left _
    have hnames : ((b.directory.order ++ [p]).map (·.name)).Nodup := by
      have hnodup := (hmoved.map Table.name).nodup_iff.2 hd
      rw [List.map_append, List.map_map] at hnodup
      exact hnodup.of_append_left
    have hnew : ∀ q ∈ b.directory.order, q.name ≠ p.name := by
      intro q hq
      rw [List.map_append, List.nodup_append] at hnames
      exact hnames.2.2 q.name (List.mem_map_of_mem hq) p.name (by simp)
    exact ⟨hagrees.enter hnew, hbuilt.snoc hkey hplace, hmoved, hstood.trans (by simp)⟩
  | again hahead =>
    rw [hahead] at hall
    exact ⟨hagrees, hbuilt, by simpa using hall, le_rfl⟩

end Building

theorem Moment.checked (h : Moment tables b) : Checked tables := by
  induction h with
  | start checked => exact checked
  | step _ _ _ ih => exact ih

/-- **What holds at every moment.** -/
theorem Moment.sound (h : Moment tables b) : b.Sound tables := by
  have hd := h.checked.nodup
  induction h with
  | start => exact Building.sound_start tables
  | step _ _ hstep ih => exact ih.step hd hstep

/-! ## What comes about -/

namespace Hierarchy

/-- What the passes come to when one of them is through, which began with `stood` tables. -/
def afterPass (stood : ℕ) (placed : Layout) (waiting : List Table) : Except DesignError Layout :=
  if waiting = [] then .ok placed
  else if placed.order.length = stood then .error (.cyclicHierarchy (waiting.map (·.name)))
  else passes placed waiting

/-- A pass leaves as many tables waiting as before exactly if it leaves as many placed. -/
theorem passes_eq {placed : Layout} (hb : Built placed.order) : passes placed waiting =
    (pass placed waiting >>= fun result => afterPass placed.order.length result.1 result.2) := by
  rw [passes]
  by_cases hwaits : waiting = []
  · subst hwaits
    rfl
  rw [if_neg (by simpa using hwaits)]
  cases hpass : pass placed waiting with
  | error e => rfl
  | ok result =>
    obtain ⟨placed', rest⟩ := result
    -- a table that is placed no longer waits, so the two counts go together
    have hall := (pass_ok hb hpass).2.length_eq
    simp only [List.length_append, List.length_map] at hall
    have hfewer := (sublist_of_pass hpass).length_le
    have hpos := List.length_pos_iff.2 hwaits
    change (if rest.length < waiting.length then passes placed' rest else _) =
      afterPass _ placed' rest
    rw [afterPass]
    by_cases hrest : rest = []
    · subst hrest
      rw [if_pos rfl, if_pos (by simpa using hpos), passes]
      rfl
    rw [if_neg hrest]
    by_cases hvain : placed'.order.length = placed.order.length
    · rw [if_pos hvain, if_neg (by omega)]
    · rw [if_neg hvain, if_pos (by omega)]

end Hierarchy

namespace Building

/-- What the building comes to from here. -/
def rest (b : Building) : Except DesignError Layout :=
  Hierarchy.pass b.directory.toLayout b.ahead >>= fun result =>
    afterPass b.stood result.1 (b.left ++ result.2)

theorem rest_start (tables : List Table) : (start tables).rest = passes {} tables := by
  rw [passes_eq .nil]
  rfl

/-- Between two passes, it is decided whether there is another one. -/
theorem rest_of_through (hahead : b.ahead = []) :
    b.rest = afterPass b.stood b.directory.toLayout b.left := by
  rw [rest, hahead]
  change afterPass b.stood b.directory.toLayout (b.left ++ []) = _
  rw [List.append_nil]

theorem left_ne_nil (hunfinished : b.isFinished = false) (hahead : b.ahead = []) : b.left ≠ [] := by
  rintro hleft
  simp [isFinished, hahead, hleft] at hunfinished

/-- **No step changes what comes about**, -/
theorem Sound.rest_step (h : b.Sound tables) (hunfinished : b.isFinished = false)
    (hstep : b.step = .ok b') :
    b'.rest = b.rest := by
  have houtcome := outcome_step h.agrees
  rw [hstep] at houtcome
  cases houtcome with
  | @waits t ahead hahead hkey =>
    rw [rest, rest, hahead, Hierarchy.pass, hkey]
    cases Hierarchy.pass b.directory.toLayout ahead with
    | error e => rfl
    | ok result =>
      change afterPass b.stood result.1 (b.left ++ [t] ++ result.2) =
        afterPass b.stood result.1 (b.left ++ t :: result.2)
      rw [List.append_assoc, List.singleton_append]
  | @placed t ahead inherited p hahead hkey hplace =>
    rw [rest, rest, hahead, Hierarchy.pass, hkey]
    dsimp only
    rw [hplace]
    rfl
  | again hahead huseful =>
    rw [rest_of_through hahead, afterPass, if_neg (left_ne_nil hunfinished hahead), if_neg huseful,
      passes_eq h.built]
    rfl

/-- and a step that fails is why nothing comes about. -/
theorem Sound.rest_of_error (h : b.Sound tables) (hunfinished : b.isFinished = false)
    (hstep : b.step = .error halt) :
    ∃ e, halt = .design e ∧ b.rest = .error e := by
  have houtcome := outcome_step h.agrees
  rw [hstep] at houtcome
  cases houtcome with
  | @refused t ahead inherited e hahead hkey hrefused =>
    refine ⟨e, rfl, ?_⟩
    rw [rest, hahead, Hierarchy.pass, hkey]
    dsimp only
    rw [hrefused]
    rfl
  | vain hahead huseless =>
    refine ⟨_, rfl, ?_⟩
    rw [rest_of_through hahead, afterPass, if_neg (left_ne_nil hunfinished hahead), if_pos huseless]

theorem rest_of_finished (h : b.isFinished = true) : b.rest = .ok b.directory.toLayout := by
  obtain ⟨hahead, hleft⟩ : b.ahead = [] ∧ b.left = [] := by simpa [isFinished] using h
  rw [rest_of_through hahead, hleft, afterPass, if_pos rfl]

/-- What is left to do: passes are counted first, and then the tables that the pass has still to
meet. -/
def remaining (tables : List Table) (b : Building) : ℕ × ℕ :=
  (tables.length - b.stood, b.ahead.length)

/-- A step meets a table, or it begins a pass because the last one has placed a table. -/
theorem Sound.remaining_step (h : b.Sound tables) (hunfinished : b.isFinished = false)
    (hstep : b.step = .ok b') :
    Prod.Lex (· < ·) (· < ·) (b'.remaining tables) (b.remaining tables) := by
  have houtcome := outcome_step h.agrees
  rw [hstep] at houtcome
  cases houtcome with
  | waits hahead => exact .right _ (by simp [hahead])
  | placed hahead => exact .right _ (by simp [hahead])
  | again hahead huseful =>
    -- tables are left, so the number of placed ones has not reached its bound
    have hall := h.tables.length_eq
    have hleft := List.length_pos_iff.2 (left_ne_nil hunfinished hahead)
    have hstood := h.stood_le
    simp only [List.length_append, List.length_map] at hall
    refine .left _ _ ?_
    change tables.length - b.directory.order.length < tables.length - b.stood
    omega

end Building

namespace Moment

/-- **Every moment is on the way to the layout**, if there is one. -/
theorem rest_eq (h : Moment tables b) : b.rest = Layout.ofTables tables := by
  rw [h.checked.ofTables_eq]
  induction h with
  | start => exact Building.rest_start tables
  | step before hunfinished hstep ih => rw [before.sound.rest_step hunfinished hstep, ih]

/-- The building goes on until it is finished. -/
theorem exists_finished {b : Building} (h : Moment tables b)
    (hlayout : Layout.ofTables tables = .ok layout) :
    ∃ b', Moment tables b' ∧ b'.isFinished = true ∧ b'.directory.toLayout = layout := by
  cases hfinished : b.isFinished with
  | true =>
    refine ⟨b, h, hfinished, ?_⟩
    rw [← h.rest_eq, Building.rest_of_finished hfinished] at hlayout
    exact Except.ok.inj hlayout
  | false =>
    cases hstep : b.step with
    | error halt =>
      obtain ⟨e, -, herror⟩ := h.sound.rest_of_error hfinished hstep
      nomatch herror.symm.trans (h.rest_eq.trans hlayout)
    | ok b' => exact (h.step hfinished hstep).exists_finished hlayout
termination_by b.remaining tables
decreasing_by exact h.sound.remaining_step hfinished hstep

end Moment

/-- Positions, lookups and the creation order say the same, and they know the declared names and no
others. -/
structure Directory.Complete (tables : List Table) (d : Directory) : Prop where
  known : ∀ name, (∃ i, d.position? name = some i) ↔ ∃ t ∈ tables, t.name = name
  position?_iff : ∀ name i, d.position? name = some i ↔ (d.order[i]?).map (·.name) = some name
  lookup_iff : ∀ name p, d.lookup name = .ok (some p) ↔
    ∃ i, d.position? name = some i ∧ d.order[i]? = some p
  /-- A search has the same answers. -/
  search : ∀ name, d.position? name = d.index? name ∧ d.lookup name = .ok (d.find? name)

theorem Moment.complete (h : Moment tables b) (hfinished : b.isFinished = true) :
    b.directory.Complete tables := by
  obtain ⟨hagrees, -, hall, -⟩ := h.sound
  obtain ⟨hahead, hleft⟩ : b.ahead = [] ∧ b.left = [] := by
    simpa [Building.isFinished] using hfinished
  rw [hahead, hleft, List.append_nil, List.append_nil] at hall
  refine ⟨fun name => ⟨?_, ?_⟩, hagrees.position?_iff, fun name p => hagrees.lookup_iff,
    fun name => ⟨hagrees.position?_eq name, hagrees.lookup_eq name⟩⟩
  · rintro ⟨i, hi⟩
    obtain ⟨p, hp, hname⟩ := Option.map_eq_some_iff.1 ((hagrees.position?_iff name i).1 hi)
    exact ⟨p.table, hall.mem_iff.1 (List.mem_map_of_mem (List.mem_of_getElem? hp)), hname⟩
  · rintro ⟨t, ht, rfl⟩
    obtain ⟨p, hp, rfl⟩ := List.mem_map.1 (hall.mem_iff.2 ht)
    obtain ⟨i, hi⟩ := List.getElem?_of_mem hp
    exact ⟨i, (hagrees.position?_iff _ i).2 (by rw [hi]; rfl)⟩

/-- **At every moment the positions are those of the placed tables**, so that no lookup leads
astray. When the building is finished, it has come to the layout, and if it fails, it is with the
error that the layout fails with. -/
theorem positions_agree (tables : List Table) :
    (∀ b, Moment tables b → b.directory.Agrees ∧
      (∀ t ∈ b.ahead, b.directory.isReady t = true → ∀ parent, t.parent = some parent →
        ∃ i, b.directory.position? parent = some i ∧ i < b.directory.order.length) ∧
      (∀ name, ∃ found, b.directory.lookup name = .ok found) ∧
      ∀ name, b.step ≠ .error (.astray name)) ∧
    (∀ b, Moment tables b → b.isFinished = true →
      Layout.ofTables tables = .ok b.directory.toLayout ∧ b.directory.Complete tables) ∧
    (∀ b e, Moment tables b → b.isFinished = false → b.step = .error (.design e) →
      Layout.ofTables tables = .error e) ∧
    ∀ layout, Layout.ofTables tables = .ok layout →
      ∃ b, Moment tables b ∧ b.isFinished = true ∧ b.directory.toLayout = layout := by
  refine ⟨fun b h => ?_, fun b h hfinished => ?_, fun b e h hunfinished hstep => ?_,
    fun layout hlayout => ?_⟩
  · have hagrees := h.sound.agrees
    refine ⟨hagrees, fun t _ hready parent => hagrees.exists_position_of_isReady hready,
      fun name => ⟨_, hagrees.lookup_eq name⟩, fun name hstep => ?_⟩
    have houtcome := Building.outcome_step hagrees
    rw [hstep] at houtcome
    nomatch houtcome
  · rw [← h.rest_eq, Building.rest_of_finished hfinished]
    exact ⟨rfl, h.complete hfinished⟩
  · obtain ⟨_, heq, herror⟩ := h.sound.rest_of_error hunfinished hstep
    obtain rfl := Directory.Halt.design.inj heq
    rw [← h.rest_eq, herror]
  · have hstart : Moment tables (.start tables) := by
      obtain ⟨hnames, hchecks, hcycle, -⟩ := ofTables_eq_ok.1 hlayout
      exact .start ⟨hnames, hchecks, hcycle⟩
    exact hstart.exists_finished hlayout

/-- The cellar is declared first, and it is entered second. -/
theorem positions_agree_cellar : ∃ b, Moment [cellar, house] b ∧ b.isFinished = true ∧
    b.directory.Agrees ∧
    b.directory.position? "House" = some 0 ∧ b.directory.position? "Cellar" = some 1 ∧
    b.directory.lookup "Cellar" = .ok (some ⟨cellar, ["HouseId", "CellarId"]⟩) ∧
    ∀ i, b.directory.position? "cellar" ≠ some i := by
  have hlayout : Layout.ofTables [cellar, house] =
      .ok ⟨[⟨house, ["HouseId"]⟩, ⟨cellar, ["HouseId", "CellarId"]⟩]⟩ := by decide +kernel
  obtain ⟨hmoment, hfinish, -, hend⟩ := positions_agree [cellar, house]
  obtain ⟨b, hb, hfinished, horder⟩ := hend _ hlayout
  obtain ⟨-, hcomplete⟩ := hfinish b hb hfinished
  have hposition : ∀ name i, b.directory.position? name = some i ↔
      (([⟨house, ["HouseId"]⟩, ⟨cellar, ["HouseId", "CellarId"]⟩] : List PlacedTable)[i]?).map
        (·.name) = some name := by
    intro name i
    rw [hcomplete.position?_iff, horder]
  have hsecond : b.directory.position? "Cellar" = some 1 := (hposition _ _).2 rfl
  refine ⟨b, hb, hfinished, (hmoment b hb).1, (hposition _ _).2 rfl, hsecond, ?_, fun i hi => ?_⟩
  · rw [hcomplete.lookup_iff]
    exact ⟨1, hsecond, by rw [horder]; rfl⟩
  · obtain ⟨t, ht, hname⟩ := (hcomplete.known _).1 ⟨i, hi⟩
    have hdeclared : t = cellar ∨ t = house := by simpa using ht
    rcases hdeclared with rfl | rfl <;> exact absurd hname (by decide)

end Interleave
