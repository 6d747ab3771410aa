import Mathlib.Data.List.TakeWhile
import Mathlib.Tactic.Common

/-!
# Texts that can be read off

A statement is put together from pieces. Nothing but its text shows where one piece ends and the
next begins.

* `append_eq_iff_of_run`: a run of characters of one class ends where a character of another class
  follows.
* `append_eq_iff_of_words`: among words none of which begins another, a word can be told.
* `Identifier`: a text that can be read off as a run: letters, digits and underscores.
* `Legible`: in front of certain texts, it can be read off what was written.
* `Legible.list`: **a list is legible if its items are.** It is divided by commas and closed by a
  parenthesis, and items may contain both.
-/

namespace Interleave.Text

variable {a b r r' : String} {c d : Char} {inClass : Char → Bool}

/-! ## Runs and words -/

def Begins (c : Char) (r : String) : Prop :=
  r.toList.head? = some c

instance (c : Char) (r : String) : Decidable (Begins c r) :=
  inferInstanceAs (Decidable (_ = _))

theorem Begins.append (h : Begins c a) (r : String) : Begins c (a ++ r) := by
  rw [Begins, String.toList_append, List.head?_append, show a.toList.head? = some c from h,
    Option.some_or]

theorem exists_begins (hne : a ≠ "") : ∃ c ∈ a.toList, Begins c a := by
  cases hlist : a.toList with
  | nil => exact absurd (String.toList_inj.1 hlist) hne
  | cons c rest => exact ⟨c, List.mem_cons_self, by rw [Begins, hlist]; rfl⟩

theorem Begins.eq (hc : Begins c r) (hd : Begins d r) : c = d :=
  Option.some.inj (hc.symm.trans hd)

/-- The text does not go on with a character of the class. -/
def BreaksOff (inClass : Char → Bool) (r : String) : Prop :=
  ∀ c ∈ r.toList.head?, inClass c = false

instance (inClass : Char → Bool) (r : String) : Decidable (BreaksOff inClass r) :=
  decidable_of_iff (r.toList.head?.all (!inClass ·) = true)
    (by simp [BreaksOff, Option.all_eq_true])

theorem Begins.breaksOff (h : Begins c r) (hc : inClass c = false) : BreaksOff inClass r := by
  intro d hd
  rwa [← h.eq hd]

theorem BreaksOff.append (h : BreaksOff inClass a) (hne : a ≠ "") (r : String) :
    BreaksOff inClass (a ++ r) := by
  obtain ⟨c, -, hc⟩ := exists_begins hne
  exact (hc.append r).breaksOff (h c hc)

/-- A run ends where the text breaks off. -/
theorem takeWhile_run (ha : ∀ c ∈ a.toList, inClass c = true) (hr : BreaksOff inClass r) :
    (a ++ r).toList.takeWhile inClass = a.toList := by
  have hrest : r.toList.takeWhile inClass = [] := by
    rw [BreaksOff] at hr
    cases hlist : r.toList with
    | nil => rfl
    | cons c rest =>
      rw [hlist] at hr
      rw [List.takeWhile_cons_of_neg (by rw [hr c rfl]; exact Bool.false_ne_true)]
  rw [String.toList_append, List.takeWhile_append_of_pos ha, hrest, List.append_nil]

/-- **A run can be read off** where the text then breaks off. -/
theorem append_eq_iff_of_run (ha : ∀ c ∈ a.toList, inClass c = true)
    (hb : ∀ c ∈ b.toList, inClass c = true) (hr : BreaksOff inClass r)
    (hr' : BreaksOff inClass r') : a ++ r = b ++ r' ↔ a = b ∧ r = r' := by
  constructor
  · intro h
    have hrun : a.toList = b.toList := by rw [← takeWhile_run ha hr, h, takeWhile_run hb hr']
    obtain rfl := String.toList_inj.1 hrun
    exact ⟨rfl, (String.append_right_inj _).1 h⟩
  · rintro ⟨rfl, rfl⟩
    rfl

/-- **A word can be read off** if none begins another. -/
theorem append_eq_iff_of_words {words : List String}
    (hwords : ∀ w ∈ words, ∀ w' ∈ words, w.toList <+: w'.toList → w = w') (ha : a ∈ words)
    (hb : b ∈ words) :
    a ++ r = b ++ r' ↔ a = b ∧ r = r' := by
  constructor
  · intro h
    have hlist := congrArg String.toList h
    rw [String.toList_append, String.toList_append] at hlist
    have hword : a = b := by
      rcases List.append_eq_append_iff.1 hlist with ⟨more, hmore, -⟩ | ⟨more, hmore, -⟩
      · exact hwords a ha b hb ⟨more, hmore.symm⟩
      · exact (hwords b hb a ha ⟨more, hmore.symm⟩).symm
    subst hword
    exact ⟨rfl, (String.append_right_inj _).1 h⟩
  · rintro ⟨rfl, rfl⟩
    rfl

/-! ## Identifiers -/

/-- The letters and digits are those of ASCII. -/
def isIdentifierChar (c : Char) : Bool :=
  c.isAlphanum || c == '_'

def Identifier (text : String) : Prop :=
  text ≠ "" ∧ ∀ c ∈ text.toList, isIdentifierChar c = true

-- the instance goes through the text, and not through all characters there are
instance (text : String) : Decidable (Identifier text) :=
  decidable_of_iff (text ≠ "" ∧ text.toList.all isIdentifierChar = true)
    (by rw [Identifier, List.all_eq_true])

theorem Identifier.append_eq_iff (ha : Identifier a) (hb : Identifier b)
    (hr : BreaksOff isIdentifierChar r) (hr' : BreaksOff isIdentifierChar r') :
    a ++ r = b ++ r' ↔ a = b ∧ r = r' :=
  append_eq_iff_of_run ha.2 hb.2 hr hr'

/-- An identifier is not what a run breaks off at. -/
theorem Identifier.not_breaksOff (ha : Identifier a) (r : String) :
    ¬ BreaksOff isIdentifierChar (a ++ r) := by
  intro h
  obtain ⟨hne, hall⟩ := ha
  obtain ⟨c, hmem, hbegins⟩ := exists_begins hne
  exact absurd (hall c hmem) (Bool.eq_false_iff.1 (h c (hbegins.append r)))

/-! ## Lists -/

variable {α : Type} {write : α → String} {good : α → Prop} {follows : String → Prop} {x y : α}
  {l l' : List α}

/-- In front of the texts `follows`, it can be read off what was written. -/
def Legible (write : α → String) (good : α → Prop) (follows : String → Prop) : Prop :=
  ∀ ⦃x y : α⦄ ⦃r r' : String⦄, good x → good y → follows r → follows r' →
    write x ++ r = write y ++ r' → x = y ∧ r = r'

theorem Legible.append_eq_iff (h : Legible write good follows) (hx : good x) (hy : good y)
    (hr : follows r) (hr' : follows r') : write x ++ r = write y ++ r' ↔ x = y ∧ r = r' := by
  refine ⟨h hx hy hr hr', ?_⟩
  rintro ⟨rfl, rfl⟩
  rfl

/-- The list has another item or ends. -/
def GoesOn (r : String) : Prop :=
  Begins ',' r ∨ Begins ')' r

theorem GoesOn.breaksOff (h : GoesOn r) : BreaksOff isIdentifierChar r := by
  rcases h with h | h
  · exact h.breaksOff (by decide)
  · exact h.breaksOff (by decide)

theorem Identifier.not_goesOn (ha : Identifier a) (r : String) : ¬ GoesOn (a ++ r) :=
  fun h => ha.not_breaksOff r h.breaksOff

/-- Identifiers may stand in a list. -/
theorem legible_identifier : Legible id Identifier GoesOn :=
  fun _ _ _ _ ha hb hr hr' => (ha.append_eq_iff hb hr.breaksOff hr'.breaksOff).1

/-- The items of a list as they are written. -/
def listed (write : α → String) (l : List α) : String :=
  ",".intercalate (l.map write)

/-- What stands behind an item of a list, up to the text `r` behind the list. -/
def further (write : α → String) (l : List α) (r : String) : String :=
  String.join (l.map fun x => "," ++ write x) ++ r

theorem further_nil : further write [] r = r := by
  rw [further, List.map_nil, String.join_nil, String.empty_append]

theorem further_cons : further write (x :: l) r = "," ++ (write x ++ further write l r) := by
  rw [further, List.map_cons, String.join_cons, String.append_assoc, String.append_assoc, further]

theorem goesOn_further (hr : Begins ')' r) : GoesOn (further write l r) := by
  cases l with
  | nil =>
    rw [further_nil]
    exact .inr hr
  | cons x l =>
    rw [further_cons]
    exact .inl (Begins.append (by decide) _)

theorem listed_nil_append : listed write [] ++ r = r := by
  rw [listed, List.map_nil, String.intercalate_nil, String.empty_append]

/-- Every item but the first stands behind a comma. -/
theorem listed_cons_append : listed write (x :: l) ++ r = write x ++ further write l r := by
  induction l generalizing x with
  | nil => rw [listed, List.map_singleton, String.intercalate_singleton, further_nil]
  | cons y l ih =>
    have hlist : listed write (x :: y :: l) = write x ++ "," ++ listed write (y :: l) :=
      String.intercalate_cons_cons
    rw [hlist, String.append_assoc, String.append_assoc, ih, further_cons]

/-- Behind an item, the rest of a list can be read off: a comma tells that there is one more. -/
theorem Legible.further_eq_iff (hw : Legible write good GoesOn) (hl : ∀ x ∈ l, good x)
    (hl' : ∀ x ∈ l', good x) (hr : Begins ')' r) (hr' : Begins ')' r') :
    further write l r = further write l' r' ↔ l = l' ∧ r = r' := by
  have hends : ∀ {r rest : String}, Begins ')' r → r ≠ "," ++ rest := by
    rintro r rest hr rfl
    exact absurd (hr.eq (Begins.append (by decide) rest : Begins ',' _)) (by decide)
  induction l generalizing l' with
  | nil =>
    cases l' with
    | nil => rw [further_nil, further_nil, eq_self, true_and]
    | cons y l' =>
      rw [further_nil, further_cons]
      exact ⟨fun h => absurd h (hends hr), fun h => (nomatch h.1)⟩
  | cons x l ih =>
    obtain ⟨hx, hl⟩ := List.forall_mem_cons.1 hl
    cases l' with
    | nil =>
      rw [further_nil, further_cons]
      exact ⟨fun h => absurd h.symm (hends hr'), fun h => (nomatch h.1)⟩
    | cons y l' =>
      obtain ⟨hy, hl'⟩ := List.forall_mem_cons.1 hl'
      have hrest : further write l r = further write l' r' ↔ l = l' ∧ r = r' := ih hl hl'
      rw [further_cons, further_cons, String.append_right_inj,
        hw.append_eq_iff hx hy (goesOn_further hr) (goesOn_further hr'), hrest, List.cons.injEq,
        and_assoc]

/-- **A list can be read off** if its items can be and none looks like the end of the list. -/
theorem Legible.list (hw : Legible write good GoesOn)
    (hopen : ∀ x r, good x → ¬ GoesOn (write x ++ r)) :
    Legible (listed write) (fun l => ∀ x ∈ l, good x) (Begins ')') := by
  intro l l' r r' hl hl' hr hr' h
  cases l with
  | nil =>
    cases l' with
    | nil => exact ⟨rfl, (String.append_right_inj _).1 h⟩
    | cons y l' =>
      rw [listed_nil_append, listed_cons_append] at h
      exact absurd (.inr (h ▸ hr)) (hopen y _ (hl' y List.mem_cons_self))
  | cons x l =>
    obtain ⟨hx, htail⟩ := List.forall_mem_cons.1 hl
    cases l' with
    | nil =>
      rw [listed_nil_append, listed_cons_append] at h
      exact absurd (.inr (h ▸ hr')) (hopen x _ hx)
    | cons y l' =>
      obtain ⟨hy, htail'⟩ := List.forall_mem_cons.1 hl'
      rw [listed_cons_append, listed_cons_append] at h
      obtain ⟨rfl, hrest⟩ := hw hx hy (goesOn_further hr) (goesOn_further hr') h
      obtain ⟨rfl, rfl⟩ := (hw.further_eq_iff htail htail' hr hr').1 hrest
      exact ⟨rfl, rfl⟩

end Interleave.Text
