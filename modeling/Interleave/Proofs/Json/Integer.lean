import Interleave.Json.Token
import Mathlib.Data.List.TakeWhile
import Mathlib.Tactic.Common

/-!
# Integers in decimal

* `Literal.ofInt`: the literal that an integer is written as.
* `Literal.parse?_toString`: **the decimal text of an integer is read as its literal.**
* `Literal.integer?_ofInt`: the literal denotes the integer.
-/

namespace Interleave.Json

variable {n : ℕ}

/-- The literal of an integer. -/
def Literal.ofInt (n : ℤ) : Literal where
  negative := n < 0
  whole := Numeral.digits 10 n.natAbs

/-- The digits of a number as they are written. -/
def digitText (n : ℕ) : List Char :=
  (Numeral.digits 10 n).map Nat.digitChar

theorem toDigits_eq_digitText (n : ℕ) : Nat.toDigits 10 n = digitText n := by
  unfold digitText
  fun_induction Numeral.digits 10 n with
  | case1 n hsmall => exact Nat.toDigits_of_lt_base (by omega)
  | case2 n hlarge ih =>
    rw [Nat.toDigits_of_base_le (by omega) (by omega), ih, List.map_append]
    rfl

theorem toList_toString (n : ℤ) :
    (toString n).toList = (if n < 0 then ['-'] else []) ++ digitText n.natAbs := by
  rw [Int.toString_eq_repr, Int.repr_eq_if, ← toDigits_eq_digitText]
  split
  · have habs : n.toNat = n.natAbs := by omega
    rw [if_neg (by omega), Nat.toList_repr, habs, List.nil_append]
  · have habs : (-n).toNat = n.natAbs := by omega
    rw [if_pos (by omega), String.toList_append, Nat.toList_repr, habs]
    rfl

theorem digitValue_digitChar : ∀ d < 10, digitValue (Nat.digitChar d) = d := by
  decide

theorem map_digitValue_digitText (n : ℕ) : (digitText n).map digitValue = Numeral.digits 10 n := by
  rw [digitText, List.map_map]
  refine (List.map_congr_left fun d hd => ?_).trans (List.map_id _)
  exact digitValue_digitChar d (Numeral.digits_lt (by decide) d hd)

theorem isDigit_of_mem_digitText : ∀ c ∈ digitText n, c.isDigit = true := by
  intro c hc
  obtain ⟨d, hd, rfl⟩ := List.mem_map.1 hc
  rw [Nat.isDigit_digitChar]
  exact decide_eq_true (Numeral.digits_lt (by decide) d hd)

theorem digitText_ne_nil (n : ℕ) : digitText n ≠ [] := by
  simpa [digitText] using Numeral.digits_ne_nil 10 n

/-- A number with more than one digit does not begin with 0. -/
theorem length_digitText_of_zero (h : (digitText n).head? = some '0') :
    (digitText n).length = 1 := by
  have hhead : (Numeral.digits 10 n).head? = some 0 := by
    rw [digitText, List.head?_map, Option.map_eq_some_iff] at h
    obtain ⟨d, hd, hzero⟩ := h
    rw [hd, Nat.digitChar_eq_zero.1 hzero]
  obtain rfl := Numeral.eq_zero_of_head?_digits (by decide) hhead
  rw [digitText, Numeral.digits_zero]
  rfl

namespace Literal

/-- **The decimal text of an integer is read as its literal.** -/
theorem parse?_toString (n : ℤ) : parse? (toString n).toList = some (ofInt n) := by
  have htake : (digitText n.natAbs).takeWhile Char.isDigit = digitText n.natAbs :=
    List.takeWhile_eq_self_iff.2 isDigit_of_mem_digitText
  have hdrop : (digitText n.natAbs).dropWhile Char.isDigit = [] :=
    List.dropWhile_eq_nil_iff.2 isDigit_of_mem_digitText
  have hwhole : ¬ (digitText n.natAbs = [] ∨
      ((digitText n.natAbs).head? = some '0' ∧ (digitText n.natAbs).length ≠ 1)) := by
    rintro (h | ⟨hzero, hlength⟩)
    · exact digitText_ne_nil _ h
    · exact hlength (length_digitText_of_zero hzero)
  rw [toList_toString]
  by_cases hnegative : n < 0
  · rw [if_pos hnegative]
    simp [parse?, htake, hdrop, hwhole, exponent?, map_digitValue_digitText, ofInt, hnegative]
  · have hsign : ((digitText n.natAbs).head? == some '-') = false :=
      beq_eq_false_iff_ne.2 fun h => by
      nomatch isDigit_of_mem_digitText '-' (List.mem_of_mem_head? h)
    rw [if_neg hnegative, List.nil_append]
    simp [parse?, hsign, htake, hdrop, hwhole, exponent?, map_digitValue_digitText, ofInt,
      hnegative]

/-- The literal denotes the integer. Zero has no sign. -/
theorem integer?_ofInt (n : ℤ) : (ofInt n).integer? = some n := by
  have hvalue : Numeral.value 10 (ofInt n).whole = n.natAbs := Numeral.value_digits 10 n.natAbs
  have hplain : ¬ ((ofInt n).fraction.isSome || (ofInt n).exponent.isSome) = true := by simp [ofInt]
  unfold integer?
  rw [hvalue, if_neg hplain]
  by_cases hnegative : n < 0
  · have hsign : (ofInt n).negative = true := decide_eq_true hnegative
    have hne : n.natAbs ≠ 0 := by omega
    have habs : -(n.natAbs : ℤ) = n := by omega
    rw [if_pos hsign, if_neg hne, habs]
  · have hsign : ¬ (ofInt n).negative = true := by simp [ofInt, hnegative]
    have habs : (n.natAbs : ℤ) = n := by omega
    rw [if_neg hsign, habs]

end Literal

end Interleave.Json
