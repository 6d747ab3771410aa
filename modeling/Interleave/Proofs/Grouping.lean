import Mathlib.Data.List.Flatten
import Mathlib.Data.List.Sort

/-!
# Sorting into groups

A list of things that have owners, sorted by the rank of the owner.

* `filter_mergeSort`: things that the order does not tell apart stay in the order in which they
  were.
* `filter_append_filter_not`: a list in which all that has a property stands in front.
* `eq_flatMap_of_pairwise`: **where the ranks of owners ascend, the list is one group after
  another**, a group for each owner.
-/

namespace Interleave

variable {α β : Type} {l : List α}

/-- A sort keeps the order of what it does not tell apart. -/
theorem filter_mergeSort {le : α → α → Bool} {f : α → Bool}
    (htrans : ∀ a b c, le a b = true → le b c = true → le a c = true)
    (htotal : ∀ a b, (le a b || le b a) = true)
    (halike : ∀ a b, f a = true → f b = true → le a b = true) (l : List α) :
    (l.mergeSort le).filter f = l.filter f := by
  have hsorted : (l.filter f).Pairwise fun a b => le a b = true := by
    refine List.pairwise_of_forall_mem_list fun a ha b hb => ?_
    exact halike a b (List.mem_filter.1 ha).2 (List.mem_filter.1 hb).2
  have hsub : (l.filter f).Sublist (l.mergeSort le) :=
    List.sublist_mergeSort htrans htotal hsorted List.filter_sublist
  have hkept : (l.filter f).Sublist ((l.mergeSort le).filter f) := by
    have h := hsub.filter f
    rwa [List.filter_filter, funext fun a => Bool.and_self (f a)] at h
  have hlength : (l.filter f).length = ((l.mergeSort le).filter f).length :=
    ((List.mergeSort_perm l le).filter f).length_eq.symm
  exact (hkept.eq_of_length hlength).symm

/-- What has a property is in front if nothing without it stands before something that has it. -/
theorem filter_append_filter_not {f : α → Bool}
    (h : l.Pairwise fun a b => f b = true → f a = true) :
    l.filter f ++ l.filter (fun a => !f a) = l := by
  induction l with
  | nil => rfl
  | cons a rest ih =>
    obtain ⟨hfirst, hrest⟩ := List.pairwise_cons.1 h
    by_cases hf : f a = true
    · rw [List.filter_cons_of_pos hf, List.filter_cons_of_neg (by simp [hf]),
        List.cons_append, ih hrest]
    · have hnone : rest.filter f = [] :=
        List.filter_eq_nil_iff.2 fun b hb hfb => hf (hfirst b hb hfb)
      have hall : rest.filter (fun a => !f a) = rest := by
        rw [← List.nil_append (rest.filter _), ← hnone]
        exact ih hrest
      rw [List.filter_cons_of_neg hf, List.filter_cons_of_pos (by simp [hf]), hnone, hall,
        List.nil_append]

/-- **Where the ranks of owners ascend, the list is one group after another.** -/
theorem eq_flatMap_of_pairwise [DecidableEq β] {owner : α → β} {rank : β → Nat} {owners : List β}
    (howners : owners.Pairwise fun o p => rank o < rank p) (hmem : ∀ a ∈ l, owner a ∈ owners)
    (hsorted : l.Pairwise fun a b => rank (owner a) ≤ rank (owner b)) :
    l = owners.flatMap fun o => l.filter fun a => owner a == o := by
  induction owners generalizing l with
  | nil =>
    rw [List.flatMap_nil]
    exact List.eq_nil_iff_forall_not_mem.2 fun a ha => nomatch hmem a ha
  | cons o rest ih =>
    obtain ⟨hlow, hrest⟩ := List.pairwise_cons.1 howners
    -- the group of `o` is in front, as all other owners rank above it
    have hfront : l.Pairwise fun a b => (owner b == o) = true → (owner a == o) = true := by
      refine hsorted.imp_of_mem fun {a b} ha _ hle hb => ?_
      rw [beq_iff_eq] at hb ⊢
      rw [hb] at hle
      rcases List.mem_cons.1 (hmem a ha) with howner | howner
      · exact howner
      · have hlt := hlow _ howner
        omega
    have hothers : ∀ a ∈ l.filter (fun a => !(owner a == o)), owner a ∈ rest := by
      intro a ha
      obtain ⟨ha, hne⟩ := List.mem_filter.1 ha
      exact List.mem_of_ne_of_mem (by simpa using hne) (hmem a ha)
    have hgroups := ih hrest hothers (hsorted.filter _)
    have hgroup : ∀ p ∈ rest, (l.filter fun a => !(owner a == o)).filter (fun a => owner a == p) =
        l.filter fun a => owner a == p := by
      intro p hp
      have hlt := hlow p hp
      rw [List.filter_filter]
      refine List.filter_congr fun a _ => ?_
      by_cases howner : owner a = p
      · have hne : p ≠ o := by
          rintro rfl
          exact Nat.lt_irrefl _ hlt
        simp [howner, hne]
      · simp [howner]
    calc l
      _ = l.filter (fun a => owner a == o) ++ l.filter (fun a => !(owner a == o)) :=
        (filter_append_filter_not hfront).symm
      _ = l.filter (fun a => owner a == o) ++
          rest.flatMap fun p => l.filter fun a => owner a == p := by
          rw [hgroups, List.flatMap_congr hgroup]
      _ = (o :: rest).flatMap fun p => l.filter fun a => owner a == p := by rw [List.flatMap_cons]

end Interleave
