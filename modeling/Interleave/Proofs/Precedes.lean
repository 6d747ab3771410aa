import Mathlib.Data.List.Nodup
import Mathlib.Tactic.Common

/-!
# Order within a list

* `Precedes`: one element stands somewhere before another.
* `precedes_append`, `precedes_middle_left`, `precedes_middle_right`: what precedes what in a list
  that is cut up.
* `precedes_filter`, `mem_left_of_filter`: a filter keeps the order of what it keeps.
* `precedes_or_precedes`, `Precedes.asymm`: of two elements one precedes the other, and not both do
  if nothing is repeated.
* `pairwise_idxOf`: positions ascend.
-/

namespace Interleave

variable {α : Type} {l first second : List α} {f : α → Bool} {x y z : α}

/-- `x` stands somewhere before `y`. -/
def Precedes (l : List α) (x y : α) : Prop :=
  [x, y].Sublist l

instance [DecidableEq α] : Decidable (Precedes l x y) :=
  inferInstanceAs (Decidable ([x, y].Sublist l))

theorem Precedes.mem_left (h : Precedes l x y) : x ∈ l :=
  h.subset List.mem_cons_self

theorem Precedes.mem_right (h : Precedes l x y) : y ∈ l :=
  h.subset (List.mem_cons_of_mem _ List.mem_cons_self)

/-- What holds of any element and those behind it. -/
theorem Precedes.rel {R : α → α → Prop} (h : Precedes l x y) (hl : l.Pairwise R) : R x y :=
  List.pairwise_pair.1 (hl.sublist h)

theorem precedes_append : Precedes (first ++ second) x y ↔
    Precedes first x y ∨ (x ∈ first ∧ y ∈ second) ∨ Precedes second x y := by
  unfold Precedes
  rw [List.sublist_append_iff]
  constructor
  · rintro ⟨l₁, l₂, hl, h₁, h₂⟩
    match l₁, hl with
    | [], hl => exact .inr (.inr (by rwa [hl]))
    | [_], hl =>
      obtain ⟨rfl, rfl⟩ := List.cons.inj hl
      exact .inr (.inl ⟨List.singleton_sublist.1 h₁, List.singleton_sublist.1 h₂⟩)
    | _ :: _ :: rest, hl =>
      simp only [List.cons_append, List.cons.injEq, List.nil_eq, List.append_eq_nil_iff] at hl
      obtain ⟨rfl, rfl, rfl, -⟩ := hl
      exact .inl h₁
  · rintro (h | ⟨hx, hy⟩ | h)
    · exact ⟨[x, y], [], rfl, h, List.nil_sublist _⟩
    · exact ⟨[x], [y], rfl, List.singleton_sublist.2 hx, List.singleton_sublist.2 hy⟩
    · exact ⟨[], [x, y], rfl, List.nil_sublist _, h⟩

theorem precedes_cons_of_ne (hne : x ≠ z) : Precedes (z :: l) x y ↔ Precedes l x y := by
  unfold Precedes
  rw [List.sublist_cons_iff]
  refine or_iff_left ?_
  rintro ⟨rest, hrest, -⟩
  exact hne (List.cons.inj hrest).1

/-- Of two elements, one precedes the other. -/
theorem precedes_or_precedes (hx : x ∈ l) (hy : y ∈ l) (hne : x ≠ y) :
    Precedes l x y ∨ Precedes l y x := by
  obtain ⟨first, second, rfl⟩ := List.append_of_mem hx
  rw [List.mem_append, List.mem_cons] at hy
  rcases hy with hy | rfl | hy
  · exact .inr (precedes_append.2 (.inr (.inl ⟨hy, List.mem_cons_self⟩)))
  · exact absurd rfl hne
  · have hpair : Precedes (x :: second) x y :=
      List.cons_sublist_cons.2 (List.singleton_sublist.2 hy)
    exact .inl (precedes_append.2 (.inr (.inr hpair)))

/-- Exactly what is in front of an element that is not repeated precedes it. -/
theorem precedes_middle_left (hz : z ∉ first ++ second) (hne : x ≠ z) :
    Precedes (first ++ z :: second) x z ↔ x ∈ first := by
  rw [List.mem_append, not_or] at hz
  rw [precedes_append, precedes_cons_of_ne hne]
  constructor
  · rintro (h | ⟨hx, -⟩ | h)
    · exact absurd h.mem_right hz.1
    · exact hx
    · exact absurd h.mem_right hz.2
  · intro hx
    exact .inr (.inl ⟨hx, List.mem_cons_self⟩)

/-- It precedes exactly what is behind it. -/
theorem precedes_middle_right (hz : z ∉ first ++ second) :
    Precedes (first ++ z :: second) z x ↔ x ∈ second := by
  rw [List.mem_append, not_or] at hz
  rw [precedes_append]
  constructor
  · rintro (h | ⟨hmem, -⟩ | h)
    · exact absurd h.mem_left hz.1
    · exact absurd hmem hz.1
    · exact List.singleton_sublist.1 (List.cons_sublist_cons.1 h)
  · intro hx
    exact .inr (.inr (List.cons_sublist_cons.2 (List.singleton_sublist.2 hx)))

/-- What is left out by a filter does not matter for what is kept. -/
theorem precedes_filter (hx : f x = true) (hy : f y = true) :
    Precedes (l.filter f) x y ↔ Precedes l x y := by
  constructor
  · intro h
    exact h.trans List.filter_sublist
  · intro h
    have hf := List.Sublist.filter f h
    rwa [List.filter_cons_of_pos hx, List.filter_cons_of_pos hy, List.filter_nil] at hf

/-- Of what a filter keeps, exactly what precedes `y` in the list stands in front of it. -/
theorem mem_left_of_filter (hl : l.Nodup) (hsplit : l.filter f = first ++ y :: second)
    (hx : f x = true) (hne : x ≠ y) : x ∈ first ↔ Precedes l x y := by
  have hnodup : (first ++ y :: second).Nodup := hsplit ▸ hl.filter f
  have hy : f y = true := by
    have hmem : y ∈ l.filter f := hsplit ▸ List.mem_append_right first List.mem_cons_self
    exact (List.mem_filter.1 hmem).2
  rw [← precedes_middle_left (List.nodup_cons.1 (List.nodup_middle.1 hnodup)).1 hne, ← hsplit,
    precedes_filter hx hy]

/-- The positions of elements ascend, if none is repeated. -/
theorem pairwise_idxOf [DecidableEq α] (hl : l.Nodup) :
    l.Pairwise fun x y => l.idxOf x < l.idxOf y := by
  refine List.pairwise_iff_getElem.2 fun i j hi hj hij => ?_
  rw [hl.idxOf_getElem, hl.idxOf_getElem]
  exact hij

theorem Precedes.asymm [DecidableEq α] (h : Precedes l x y) (hl : l.Nodup) : ¬ Precedes l y x := by
  intro hback
  have hforth := h.rel (pairwise_idxOf hl)
  have hback := hback.rel (pairwise_idxOf hl)
  omega

end Interleave
