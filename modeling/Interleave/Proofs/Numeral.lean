import Interleave.Numeral
import Mathlib.Data.Nat.Digits.Lemmas

/-!
# How numerals come about, and how long they are

* `Numeral.digits_eq_reverse`: the digits come out of repeated division, the last one first, and are
  turned around. Zero would have none that way, so it is apart.
* `Numeral.length_digits_le_iff`: **how many digits a number has.**
* `Numeral.value_lt`: `k` digits stand for less than the `k`-th power of the base.
* `Numeral.digits_value`: **digits that do not begin with a superfluous zero are those of their
  number**, so no number has two numerals.
-/

namespace Interleave.Numeral

variable {base n k : ℕ} {ds : List ℕ}

/-- Dividing by the base yields the digits from the last to the first. -/
theorem digits_eq_reverse (hbase : 2 ≤ base) (hn : n ≠ 0) :
    digits base n = (Nat.digits base n).reverse := by
  fun_induction digits base n with
  | case1 n hsmall => rw [Nat.digits_of_lt base n hn (by omega), List.reverse_singleton]
  | case2 n hlarge ih =>
    have hquotient : n / base ≠ 0 := fun hzero => by
      have := (Nat.div_eq_zero_iff.1 hzero).resolve_left (by omega)
      omega
    rw [Nat.digits_eq_cons_digits_div hbase hn, List.reverse_cons, ih hquotient]

theorem value_eq_ofDigits (base : ℕ) (ds : List ℕ) :
    value base ds = Nat.ofDigits base ds.reverse := by
  induction ds using List.reverseRecOn with
  | nil => rfl
  | append_singleton ds d ih =>
    rw [value_append_singleton, ih, List.reverse_append, List.reverse_singleton,
      List.singleton_append, Nat.ofDigits_cons]
    ring

/-- **How many digits a number has.** -/
theorem length_digits_le_iff (hbase : 2 ≤ base) (hk : 0 < k) :
    (digits base n).length ≤ k ↔ n < base ^ k := by
  by_cases hn : n = 0
  · have hpow : 0 < base ^ k := Nat.pow_pos (by omega)
    rw [hn, digits_zero]
    exact iff_of_true hk hpow
  · rw [digits_eq_reverse hbase hn, List.length_reverse, Nat.digits_length_le_iff hbase]

theorem value_lt (hbase : 2 ≤ base) (hds : ∀ d ∈ ds, d < base) :
    value base ds < base ^ ds.length := by
  rw [value_eq_ofDigits, ← List.length_reverse]
  exact Nat.ofDigits_lt_base_pow_length hbase fun d hd => hds d (List.mem_reverse.1 hd)

/-- **Digits without a superfluous zero are those of their number.** -/
theorem digits_value (hbase : 2 ≤ base) (hds : ∀ d ∈ ds, d < base) (hne : ds ≠ [])
    (hleading : ds.head? = some 0 → ds = [0]) : digits base (value base ds) = ds := by
  by_cases hzero : ds = [0]
  · have hvalue : value base [0] = 0 := by simp [value]
    rw [hzero, hvalue, digits_zero]
  · -- turned around, the leading digit is the last one, which division never leaves zero
    have hlast : ∀ h : ds.reverse ≠ [], ds.reverse.getLast h ≠ 0 := fun h heq =>
      hzero (hleading (by rw [List.head?_eq_some_head hne, ← List.getLast_reverse h, heq]))
    have hdivision : Nat.digits base (value base ds) = ds.reverse := by
      rw [value_eq_ofDigits]
      exact Nat.digits_ofDigits base hbase ds.reverse
        (fun d hd => hds d (List.mem_reverse.1 hd)) hlast
    have hvalue : value base ds ≠ 0 := fun hvalue => by
      rw [hvalue, Nat.digits_zero] at hdivision
      exact hne (List.reverse_eq_nil_iff.1 hdivision.symm)
    rw [digits_eq_reverse hbase hvalue, hdivision, List.reverse_reverse]

end Interleave.Numeral
